import Mathlib.Data.List.Nodup
import Mathlib.Tactic.Lemma
import RuleTemplate.Proofs.KeyMap
import RuleTemplate.Settings.VariableFile

/-!
# Variables after the entries of a file

A variable that is set keeps its value, and any other has the value that the entries give to it
(`lookup_withEntries`). That is the value of the first entry for it, and it depends on no other
variables than those to which this value refers, be it by way of entries in front
(`given_eq_of_not_refers`).
-/

namespace RuleTemplate.VariableFile

variable {vars vars' : Variables} {entry : Entry} {entries entries' front behind : List Entry}
  {value : List Part} {n m j : Text}

/-! ## One entry -/

lemma withEntry_eq (vars : Variables) (entry : Entry) : withEntry vars entry
    = if entry.1 ∈ vars.map (·.1) then vars else vars ++ [(entry.1, valueIn vars entry.2)] := by
  have hany : vars.any (·.1 = entry.1) = true ↔ entry.1 ∈ vars.map (·.1) := by
    simp [List.any_eq_true]
  rw [withEntry, if_congr hany rfl rfl]

lemma lookup_withEntry (vars : Variables) (entry : Entry) (n : Text) :
    (withEntry vars entry).lookup n
      = (vars.lookup n).or (if entry.1 = n then some (valueIn vars entry.2) else none) := by
  rw [withEntry_eq]
  split
  next hset =>
    split
    next hn =>
      obtain ⟨t, ht⟩ := exists_lookup_of_mem hset
      rw [← hn, ht]
      rfl
    next => exact (Option.or_none ..).symm
  next hnew =>
    rw [List.lookup_append, List.lookup_cons]
    by_cases hn : entry.1 = n
    · rw [if_pos hn, beq_iff_eq.2 hn.symm]
    · rw [if_neg hn, beq_false_of_ne (Ne.symm hn)]
      rfl

lemma nodup_withEntry (h : (vars.map (·.1)).Nodup) (entry : Entry) :
    ((withEntry vars entry).map (·.1)).Nodup := by
  rw [withEntry_eq]
  split
  · exact h
  next hnew =>
    rw [List.map_append, List.map_singleton]
    exact h.append (List.nodup_singleton _) (by simpa using hnew)

/-! ## Several entries -/

/-- What entries give to a variable, if anything. -/
def given (vars : Variables) : List Entry → Text → Option Text
  | [], _ => none
  | entry :: entries, n =>
    if entry.1 = n then some (valueIn vars entry.2) else given (withEntry vars entry) entries n

lemma lookup_withEntries (vars : Variables) (entries : List Entry) (n : Text) :
    (withEntries vars entries).lookup n = (vars.lookup n).or (given vars entries n) := by
  induction entries generalizing vars with
  | nil => exact (Option.or_none ..).symm
  | cons entry entries ih =>
    rw [withEntries, List.foldl_cons, ← withEntries, ih, lookup_withEntry, Option.or_assoc, given]
    split <;> rfl

lemma nodup_withEntries (h : (vars.map (·.1)).Nodup) (entries : List Entry) :
    ((withEntries vars entries).map (·.1)).Nodup := by
  induction entries generalizing vars with
  | nil => exact h
  | cons entry entries ih => exact ih (nodup_withEntry h entry)

lemma mem_of_mem_withEntries {v : Text × Text} (h : v ∈ withEntries vars entries) :
    v ∈ vars ∨ ∃ entry ∈ entries, entry.1 = v.1 := by
  induction entries generalizing vars with
  | nil => exact .inl h
  | cons entry entries ih =>
    rcases ih h with hmem | ⟨later, hlater, hname⟩
    · rw [withEntry_eq] at hmem
      split at hmem
      · exact .inl hmem
      · rcases List.mem_append.1 hmem with hmem | hmem
        · exact .inl hmem
        · rw [List.mem_singleton.1 hmem]
          exact .inr ⟨entry, List.mem_cons_self .., rfl⟩
    · exact .inr ⟨later, List.mem_cons_of_mem _ hlater, hname⟩

lemma given_of_notMem (h : n ∉ entries.map (·.1)) : given vars entries n = none := by
  induction entries generalizing vars with
  | nil => rfl
  | cons entry entries ih =>
    rw [List.map_cons, List.mem_cons, not_or] at h
    rw [given, if_neg (Ne.symm h.1), ih h.2]

/-- The first entry for a variable gives it the value as it is after the entries in front. -/
lemma given_append_cons (h : n ∉ front.map (·.1)) :
    given vars (front ++ (n, value) :: behind) n
      = some (valueIn (withEntries vars front) value) := by
  induction front generalizing vars with
  | nil => exact if_pos rfl
  | cons entry front ih =>
    rw [List.map_cons, List.mem_cons, not_or] at h
    rw [List.cons_append, given, if_neg (Ne.symm h.1), ih h.2]
    rfl

/-! ## References -/

/-- The value that entries give to one variable refers to another one, itself or by the values of
variables that are set by entries in front. -/
inductive Refers : List Entry → Text → Text → Prop where
  | direct {front behind : List Entry} {value : List Part} {n m : Text}
      (hn : n ∉ front.map (·.1)) (hm : .reference m ∈ value) :
      Refers (front ++ (n, value) :: behind) n m
  | through {front behind : List Entry} {value : List Part} {n l m : Text}
      (hn : n ∉ front.map (·.1)) (hl : .reference l ∈ value) (h : Refers front l m) :
      Refers (front ++ (n, value) :: behind) n m

lemma Refers.exists_mem (h : Refers entries n m) : ∃ entry ∈ entries, .reference m ∈ entry.2 := by
  induction h with
  | direct hn hm => exact ⟨_, List.mem_append_right _ (List.mem_cons_self ..), hm⟩
  | through hn hl h ih =>
    obtain ⟨entry, hentry, hm⟩ := ih
    exact ⟨entry, List.mem_append_left _ hentry, hm⟩

/-- A value depends on the variables to which it refers. -/
lemma valueIn_congr (h : ∀ m, .reference m ∈ value → vars.lookup m = vars'.lookup m) :
    valueIn vars value = valueIn vars' value := by
  refine List.flatMap_congr fun part hpart => ?_
  cases part with
  | char c => rfl
  | reference m => rw [Part.textIn, Part.textIn, h m hpart]

lemma exists_first (h : n ∈ entries.map (·.1)) :
    ∃ front value behind, entries = front ++ (n, value) :: behind ∧ n ∉ front.map (·.1) := by
  obtain ⟨names, others, hnames, hn⟩ := List.eq_append_cons_of_mem h
  obtain ⟨front, rest, rfl, rfl, hrest⟩ := List.map_eq_append_iff.1 hnames
  obtain ⟨⟨_, value⟩, behind, rfl, rfl, -⟩ := List.map_eq_cons_iff.1 hrest
  exact ⟨front, value, behind, rfl, hn⟩

/-- Entries that are the same but for those of one name fall into parts alike at an entry of another
name. -/
lemma exists_append_cons (hn : n ≠ j)
    (h : (front ++ (n, value) :: behind).filter (·.1 ≠ j) = entries'.filter (·.1 ≠ j)) :
    ∃ front' behind', entries' = front' ++ (n, value) :: behind' ∧
      front.filter (·.1 ≠ j) = front'.filter (·.1 ≠ j) := by
  have hsame : entries'.filter (·.1 ≠ j)
      = front.filter (·.1 ≠ j) ++ (n, value) :: behind.filter (·.1 ≠ j) := by
    rw [← h, List.filter_append, List.filter_cons_of_pos (by simpa using hn)]
  obtain ⟨front', rest, rfl, hfront, hrest⟩ := List.filter_eq_append_iff.1 hsame
  obtain ⟨between, behind', rfl, hbetween, -, -⟩ := List.filter_eq_cons_iff.1 hrest
  refine ⟨front' ++ between, behind', (List.append_assoc ..).symm, ?_⟩
  rw [List.filter_append, hfront, List.filter_eq_nil_iff.2 hbetween, List.append_nil]

lemma notMem_of_filter_eq (hn : n ≠ j) (h : entries.filter (·.1 ≠ j) = entries'.filter (·.1 ≠ j))
    (hmem : n ∉ entries.map (·.1)) : n ∉ entries'.map (·.1) := by
  intro hmem'
  obtain ⟨entry, hentry, rfl⟩ := List.mem_map.1 hmem'
  have hkept : entry ∈ entries'.filter (·.1 ≠ j) := List.mem_filter.2 ⟨hentry, by simpa using hn⟩
  rw [← h] at hkept
  exact hmem (List.mem_map_of_mem (List.mem_filter.1 hkept).1)

/-- Variables are the same but for one, and so are entries. -/
structure SameBut (name : Text) (vars : Variables) (entries : List Entry) (vars' : Variables)
    (entries' : List Entry) : Prop where
  lookup_eq : ∀ n ≠ name, vars.lookup n = vars'.lookup n
  filter_eq : entries.filter (·.1 ≠ name) = entries'.filter (·.1 ≠ name)

/-- When one variable is set otherwise, before or by entries, what entries give to another one does
not change, unless that refers to it. -/
theorem given_eq_of_not_refers (hsame : SameBut j vars entries vars' entries') (hn : n ≠ j)
    (h : ¬ Refers entries n j) : given vars entries n = given vars' entries' n := by
  induction hlength : entries.length using Nat.strong_induction_on
    generalizing entries entries' n with
  | _ length ih =>
    by_cases hmem : n ∈ entries.map (·.1)
    · -- the first entry for `n` is left as it is, and what it refers to is settled in front of it
      obtain ⟨front, value, behind, rfl, hfront⟩ := exists_first hmem
      obtain ⟨front', behind', rfl, hfilter⟩ := exists_append_cons hn hsame.filter_eq
      rw [given_append_cons hfront, given_append_cons (notMem_of_filter_eq hn hfilter hfront)]
      refine congrArg some (valueIn_congr fun m hm => ?_)
      have hne : m ≠ j := by
        rintro rfl
        exact h (.direct hfront hm)
      have hshorter : front.length < length := by
        rw [← hlength, List.length_append, List.length_cons]
        omega
      have hgiven : given vars front m = given vars' front' m :=
        ih front.length hshorter ⟨hsame.lookup_eq, hfilter⟩ hne
          (fun hrefers => h (.through hfront hm hrefers)) rfl
      rw [lookup_withEntries, lookup_withEntries, hsame.lookup_eq m hne, hgiven]
    · rw [given_of_notMem hmem, given_of_notMem (notMem_of_filter_eq hn hsame.filter_eq hmem)]

end RuleTemplate.VariableFile
