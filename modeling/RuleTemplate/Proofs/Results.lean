import Mathlib.Data.List.Forall2
import Mathlib.Tactic.Lemma

/-!
# Results

What may fail gives a result or an error. A result is passed on (`ok_bind`), and the results of the
members of a list are gathered from left to right, up to the first error.
-/

namespace RuleTemplate.Results

variable {ε α β : Type} {g : α → Except ε β}

/-- A result is passed on. -/
@[simp] lemma ok_bind (a : α) (f : α → Except ε β) : (Except.ok a >>= f) = f a := by
  simp only [bind, Except.bind]

@[simp] lemma pure_eq_ok (a : α) : (pure a : Except ε α) = .ok a := by
  simp only [pure, Except.pure]

lemma bind_eq_ok {x : Except ε α} {f : α → Except ε β} {b : β} (h : (x >>= f) = .ok b) :
    ∃ a, x = .ok a ∧ f a = .ok b := by
  cases x with
  | error e => cases h
  | ok a => exact ⟨a, rfl, h⟩

/-- Results are gathered from left to right. -/
lemma mapM_cons_eq (a : α) (as : List α) :
    (a :: as).mapM g = (g a).bind fun b => (as.mapM g).map (b :: ·) := by
  rw [List.mapM_cons]
  cases g a with
  | error e => rfl
  | ok b => cases as.mapM g <;> rfl

/-- The results of all are gathered when there is one for each. -/
lemma mapM_eq_ok {as : List α} {bs : List β} (h : as.map g = bs.map .ok) : as.mapM g = .ok bs := by
  induction as generalizing bs with
  | nil =>
    cases bs with
    | nil => rfl
    | cons b bs => cases h
  | cons a as ih =>
    cases bs with
    | nil => cases h
    | cons b bs =>
      obtain ⟨ha, has⟩ := List.cons.inj h
      rw [mapM_cons_eq, ha, ih has]
      rfl

lemma mapM_eq_ok_of_forall₂ {as : List α} {bs : List β}
    (h : List.Forall₂ (fun b a => g a = .ok b) bs as) : as.mapM g = .ok bs := by
  refine mapM_eq_ok ?_
  induction h with
  | nil => rfl
  | cons hg _ ih => rw [List.map_cons, List.map_cons, hg, ih]

/-- An error that is met while results are gathered is the result of a member. -/
lemma exists_of_mapM_eq_error {as : List α} {e : ε} (h : as.mapM g = .error e) :
    ∃ a ∈ as, g a = .error e := by
  induction as with
  | nil => cases h
  | cons a as ih =>
    rw [mapM_cons_eq] at h
    cases ha : g a with
    | error e' =>
      rw [ha] at h
      cases h
      exact ⟨a, List.mem_cons_self .., ha⟩
    | ok b =>
      rw [ha] at h
      cases has : as.mapM g with
      | error e' =>
        rw [has] at h
        cases h
        obtain ⟨a', hmem, ha'⟩ := ih has
        exact ⟨a', List.mem_cons_of_mem _ hmem, ha'⟩
      | ok bs => rw [has] at h; cases h

/-- When results are gathered, every member has one. -/
lemma exists_of_mapM_eq_ok {as : List α} {bs : List β} (h : as.mapM g = .ok bs) :
    ∀ a ∈ as, ∃ b, g a = .ok b := by
  intro a ha
  induction as generalizing bs with
  | nil => cases ha
  | cons head as ih =>
    rw [mapM_cons_eq] at h
    cases hhead : g head with
    | error e => rw [hhead] at h; cases h
    | ok b =>
      rw [hhead] at h
      cases has : as.mapM g with
      | error e => rw [has] at h; cases h
      | ok bs' =>
        rcases List.mem_cons.1 ha with rfl | ha
        · exact ⟨b, hhead⟩
        · exact ih has ha

/-- The first error met counts. -/
lemma mapM_eq_error_of_first {as : List α} {i : Nat} {a : α} {e : ε} (hi : as[i]? = some a)
    (ha : g a = .error e) (hbefore : ∀ j < i, ∀ a', as[j]? = some a' → ∃ b, g a' = .ok b) :
    as.mapM g = .error e := by
  induction as generalizing i with
  | nil => simp at hi
  | cons head as ih =>
    rw [mapM_cons_eq]
    cases i with
    | zero =>
      cases hi
      rw [ha]
      rfl
    | succ i =>
      obtain ⟨b, hb⟩ := hbefore 0 (Nat.succ_pos i) head rfl
      have htail : as.mapM g = .error e :=
        ih hi fun j hj a' ha' => hbefore (j + 1) (Nat.succ_lt_succ hj) a' ha'
      rw [hb, htail]
      rfl

end RuleTemplate.Results
