import RuleTemplate.Proofs.KeyMap
import RuleTemplate.Proofs.Settings.Tree
import RuleTemplate.Settings.Variables

/-!
# Settings from variables

Each setting has a variable, and as long as no other variable has a name in the scope of settings,
variables give what is read from the values of these (`gives_ofVariables`).
-/

namespace RuleTemplate.Settings

variable {vars : Variables}

/-- The variable of a setting. -/
def Key.variableName : Key → Text
  | .baseUrl => "FORMATTER_URLS__BASE_URL"
  | .level => "FORMATTER_LOGGING__LEVEL"
  | .format => "FORMATTER_LOGGING__FORMAT"

/-- What variables give. -/
def Layer.ofVariables (vars : Variables) : Layer := fun k =>
  (vars.lookup k.variableName).map valueOf

/-- No variable that settings could come from is among some, whatever is said of them, but those of
the settings. -/
def SettingsOnly {α : Type} (vs : List (Text × α)) : Prop :=
  ∀ v ∈ vs, (variableKey? v.1).isSome → ∃ k : Key, v.1 = k.variableName

lemma variableKey?_variableName (k : Key) : variableKey? k.variableName = some k.path := by
  cases k <;> decide

lemma Key.variableName_inj {k l : Key} (h : k.variableName = l.variableName) : k = l := by
  revert h
  cases k <;> cases l <;> decide

/-- A number that is not an integer, or the text that stands for it. -/
lemma isScalar_of_real? {t : Text} {v : Json} (h : real? t = some v) : IsScalar v := by
  unfold real? at h
  simp only at h
  split at h
  · cases h
    trivial
  split at h
  · cases h
    trivial
  obtain ⟨_, -, rfl⟩ := Option.map_eq_some_iff.1 h
  split <;> trivial

lemma isScalar_valueOf (t : Text) : IsScalar (valueOf t) := by
  unfold valueOf
  split
  · trivial
  split
  · trivial
  cases integer? t with
  | some n => trivial
  | none =>
    cases hreal : real? t with
    | none => trivial
    | some v => exact isScalar_of_real? hreal

/-- Variables give their values to the settings. -/
lemma gives_ofVariables (hnodup : (vars.map (·.1)).Nodup) (h : SettingsOnly vars) :
    Gives (ofVariables vars) (.ofVariables vars) := by
  induction vars with
  | nil => exact ⟨[], .nil, List.nodup_nil, fun k => rfl⟩
  | cons v vars ih =>
    obtain ⟨n, t⟩ := v
    rw [List.map_cons, List.nodup_cons] at hnodup
    obtain ⟨as, has, hdistinct, hlookup⟩ := ih hnodup.2 fun v hv => h v (List.mem_cons_of_mem _ hv)
    by_cases hkey : (variableKey? n).isSome
    · obtain ⟨k, rfl⟩ := h _ (List.mem_cons_self ..) hkey
      have hfirst : ofVariables ((k.variableName, t) :: vars)
          = (k.path, valueOf t) :: ofVariables vars :=
        List.filterMap_cons_some (by rw [variableKey?_variableName]; rfl)
      have hnew : as.lookup k = none := by
        rw [hlookup, Layer.ofVariables, lookup_eq_none_of_notMem hnodup.1]
        rfl
      have hnotMem : k ∉ as.map (·.1) := by
        intro hmem
        obtain ⟨a, ha, rfl⟩ := List.mem_map.1 hmem
        simpa using List.lookup_eq_none_iff.1 hnew a ha
      refine ⟨(k, valueOf t) :: as, hfirst ▸ .key k (isScalar_valueOf t) has,
        List.nodup_cons.2 ⟨hnotMem, hdistinct⟩, fun l => ?_⟩
      rw [List.lookup_cons, Layer.ofVariables, List.lookup_cons]
      by_cases hl : l = k
      · rw [hl, beq_self_eq_true, beq_self_eq_true]
        rfl
      · rw [beq_false_of_ne hl, beq_false_of_ne (mt Key.variableName_inj hl)]
        exact hlookup l
    · have hnone : variableKey? n = none := by simpa using hkey
      have hsame : ofVariables ((n, t) :: vars) = ofVariables vars :=
        List.filterMap_cons_none (by rw [hnone]; rfl)
      refine ⟨as, hsame ▸ has, hdistinct, fun l => ?_⟩
      have hne : l.variableName ≠ n := by
        rintro rfl
        rw [variableKey?_variableName] at hnone
        cases hnone
      rw [Layer.ofVariables, List.lookup_cons, beq_false_of_ne hne]
      exact hlookup l

end RuleTemplate.Settings
