import RuleTemplate.Proofs.Text.Blank
import RuleTemplate.Template.Placeholder

/-!
# Reading placeholders by path

`Placeholder.delimited?` sees of a text its kind, which ends at the first underscore, and the run of
characters behind that. So a placeholder that is cut out of a text is read as the same placeholder
(`Placeholder.parse?_source`).
-/

namespace RuleTemplate.Placeholder

variable {opening closing kind path rest rest' t : Text} {closed? : Text → Option Text}
  {p : Placeholder}

/-- What is read is told by the kind and by the run behind the underscore. -/
lemma delimited?_append (opening closing : Text) (closed? : Text → Option Text)
    (hkind : '_' ∉ kind) (rest : Text) :
    delimited? opening closing closed? (opening ++ (kind ++ '_' :: rest))
      = (closed? (Text.run rest)).map fun path =>
          ⟨kind, segments path, opening ++ kind ++ '_' :: path ++ closing⟩ := by
  have htake := Text.takeWhile_ne_append_cons hkind rest
  have hdrop := Text.dropWhile_ne_append_cons hkind rest
  rw [delimited?, Text.stripLead?_eq_some_iff.2 rfl]
  simp only [Option.bind_eq_bind, Option.bind_some, htake, hdrop, Text.stripLead?, if_true]
  rw [← Text.run]
  cases closed? (Text.run rest) <;> rfl

/-- The parts of a text that begins with a placeholder. -/
lemma exists_of_delimited? (h : delimited? opening closing closed? t = some p) :
    ∃ kind path rest, '_' ∉ kind ∧ t = opening ++ (kind ++ '_' :: rest) ∧
      closed? (Text.run rest) = some path ∧
      p = ⟨kind, segments path, opening ++ kind ++ '_' :: path ++ closing⟩ := by
  simp only [delimited?, Option.bind_eq_bind, Option.bind_eq_some_iff] at h
  obtain ⟨behind, hbehind, rest, hrest, path, hpath, hp⟩ := h
  have hsplit := List.takeWhile_append_dropWhile (p := (· ≠ '_')) (l := behind)
  rw [Text.stripLead?_eq_some_iff.1 hrest] at hsplit
  refine ⟨behind.takeWhile (· ≠ '_'), path, rest, ?_, ?_, hpath, (Option.some.inj hp).symm⟩
  · intro hmem
    have := List.mem_takeWhile_imp hmem
    simp at this
  · rw [Text.stripLead?_eq_some_iff.1 hbehind]
    exact congrArg _ hsplit.symm

/-! ## In braces -/

/-- The text of a placeholder in braces, without the marker. -/
def bracedText (kind path : Text) : Text := '\x7b' :: (kind ++ '_' :: (path ++ ['\x7d']))

lemma beforeBrace?_eq_none (h : '\x7d' ∉ rest) : beforeBrace? rest = none := by
  induction rest with
  | nil => rfl
  | cons c rest ih =>
    obtain ⟨hc, hrest⟩ := not_or.1 (mt List.mem_cons.2 h)
    rw [beforeBrace?, ih hrest]
    exact if_neg (Ne.symm hc)

/-- The last closing brace counts. -/
lemma beforeBrace?_append (path : Text) (h : '\x7d' ∉ rest) :
    beforeBrace? (path ++ '\x7d' :: rest) = some path := by
  -- what `path` holds does not matter, as braces in it are passed over while another one follows
  induction path with
  | nil =>
    rw [List.nil_append, beforeBrace?, beforeBrace?_eq_none h]
    rfl
  | cons c path ih => rw [List.cons_append, beforeBrace?, ih]

lemma braced?_append (hkind : '_' ∉ kind) :
    braced? ('\x7b' :: (kind ++ '_' :: rest))
      = (beforeBrace? (Text.run rest)).map fun path =>
          ⟨kind, segments path, bracedText kind path⟩ := by
  refine (delimited?_append ['\x7b'] ['\x7d'] beforeBrace? hkind rest).trans ?_
  simp [bracedText]

/-- A placeholder in braces ends with its own closing brace when no other one follows before the
next blank. -/
lemma parse?_braced_append (hkind : '_' ∉ kind) (hpath : ∀ c ∈ path, Text.isBlank c = false)
    (hrest : '\x7d' ∉ Text.run rest) :
    parse? (bracedText kind path ++ rest) = some ⟨kind, segments path, bracedText kind path⟩ := by
  have htext : bracedText kind path ++ rest
      = '\x7b' :: (kind ++ '_' :: (path ++ '\x7d' :: rest)) := by simp [bracedText]
  have hrun : Text.run (path ++ '\x7d' :: rest) = path ++ '\x7d' :: Text.run rest := by
    have hbrace : Text.run ('\x7d' :: rest) = '\x7d' :: Text.run rest :=
      List.takeWhile_cons_of_pos (by decide)
    rw [Text.run_append hpath, hbrace]
  rw [parse?, htext, braced?_append hkind, hrun, beforeBrace?_append path hrest]
  rfl

/-- Nothing is read that does not open with a brace. -/
lemma braced?_eq_none_of_head? (hopen : kind.head? ≠ some '\x7b') (rest : Text) :
    braced? (kind ++ '_' :: rest) = none := by
  cases kind with
  | nil => rfl
  | cons c kind =>
    have hc : '\x7b' ≠ c := fun h => hopen (congrArg some h.symm)
    simp [braced?, delimited?, Text.stripLead?, hc]

/-- What stands in braces is told by the kind and by the run behind that. -/
lemma braced?_eq_of_run_eq (hkind : '_' ∉ kind) (hrun : Text.run rest' = Text.run rest) :
    braced? (kind ++ '_' :: rest') = braced? (kind ++ '_' :: rest) := by
  by_cases hopen : kind.head? = some '\x7b'
  · obtain ⟨inner, rfl⟩ := List.head?_eq_some_iff.1 hopen
    have hinner : '_' ∉ inner := fun hmem => hkind (List.mem_cons_of_mem _ hmem)
    rw [List.cons_append, List.cons_append, braced?_append hinner, braced?_append hinner, hrun]
  · rw [braced?_eq_none_of_head? hopen, braced?_eq_none_of_head? hopen]

/-! ## Without braces -/

lemma bare?_append (hkind : '_' ∉ kind) (rest : Text) :
    bare? (kind ++ '_' :: rest)
      = some ⟨kind, segments (Text.run rest), kind ++ '_' :: Text.run rest⟩ := by
  refine (delimited?_append [] [] some hkind rest).trans ?_
  simp

/-! ## In front of another text -/

/-- What is read is told by the kind and by the run behind that. -/
lemma parse?_eq_of_run_eq (hkind : '_' ∉ kind) (hrun : Text.run rest' = Text.run rest) :
    parse? (kind ++ '_' :: rest') = parse? (kind ++ '_' :: rest) := by
  rw [parse?, parse?, braced?_eq_of_run_eq hkind hrun, bare?_append hkind, bare?_append hkind, hrun]

/-- A text that is read holds an underscore. -/
lemma exists_of_parse? (h : parse? t = some p) :
    ∃ kind rest, '_' ∉ kind ∧ t = kind ++ '_' :: rest := by
  have hmem : '_' ∈ t := by
    rcases Option.or_eq_some_iff.1 (Option.orElse_eq_or.symm.trans h) with h | ⟨-, h⟩
    all_goals
      obtain ⟨kind, path, rest, -, rfl, -⟩ := exists_of_delimited? h
      simp
  obtain ⟨kind, rest, ht, hkind⟩ := List.eq_append_cons_of_mem hmem
  exact ⟨kind, rest, hkind, ht⟩

/-- A placeholder is read as before, when a text is appended that ends its run. -/
lemma parse?_append_of_endsRun (h : parse? t = some p) {next : Text} (hnext : next.EndsRun) :
    parse? (t ++ next) = some p := by
  obtain ⟨kind, rest, hkind, rfl⟩ := exists_of_parse? h
  rw [← h, List.append_assoc, List.cons_append]
  exact parse?_eq_of_run_eq hkind (Text.run_append_of_endsRun rest hnext)

/-! ## Cut out of a text -/

/-- A placeholder is read off its own text. -/
lemma parse?_source (h : parse? t = some p) : parse? p.source = some p := by
  unfold parse? at h
  cases hbraced : braced? t with
  | some q =>
    rw [hbraced] at h
    cases h
    obtain ⟨kind, path, rest, hkind, rfl, hpath, rfl⟩ := exists_of_delimited? hbraced
    obtain ⟨more, hmore⟩ := eq_of_beforeBrace? hpath
    have hword : ∀ c ∈ path, Text.isBlank c = false := by
      intro c hc
      have hmem : c ∈ Text.run rest := by
        rw [hmore]
        exact List.mem_append_left _ hc
      exact Text.isBlank_of_mem_run hmem
    have hnil : '\x7d' ∉ Text.run [] := List.not_mem_nil
    have halone := parse?_braced_append hkind hword hnil
    simpa [bracedText] using halone
  | none =>
    rw [hbraced] at h
    have hbare : bare? t = some p := h
    obtain ⟨kind, path, rest, hkind, rfl, hpath, rfl⟩ := exists_of_delimited? hbare
    cases hpath
    have hnone := (braced?_eq_of_run_eq hkind (Text.run_run rest)).trans hbraced
    have halone := bare?_append hkind (Text.run rest)
    rw [Text.run_run] at halone
    simp only [List.nil_append, List.append_nil]
    rw [parse?, hnone, halone]
    rfl

end RuleTemplate.Placeholder
