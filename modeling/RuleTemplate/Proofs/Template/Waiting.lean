import RuleTemplate.Proofs.Results
import RuleTemplate.Template.Pending

/-!
# Waiting for several values at once

What `Pending.join` gives does not depend on how long the values take, as long as none of them
fails; when some fail, it gives the error of one of them.

* `join_eq_oneByOne`: without a failure the values are those of waiting for one after the other.
* `exists_failure_of_join`: an error is that of a value that failed.
* `join_eq_error_of_failsFirst`: of up to `roundLimit` values, the error is that of the failing
  value that needs the fewest polls, and of several such the leftmost (`FailsFirst`).
-/

namespace RuleTemplate

open Results

namespace Pending

/-! ## The queue -/

/-- What was taken before and what is still waited for make up the same values. -/
lemma takeReady_bind_oneByOne (taken : List (Option Text)) (ps : List Pending) :
    ((takeReady taken ps).bind fun s => (oneByOne s.2).map (s.1 ++ ·))
      = (oneByOne ps).map (taken ++ ·) := by
  -- each value that is taken goes behind the others in `taken`
  induction ps generalizing taken with
  | nil => rfl
  | cons p ps ih =>
    unfold takeReady
    split
    · next heq =>
      cases heq
      rw [oneByOne, mapM_cons_eq]
      rfl
    · next value ps' heq =>
      cases heq
      rw [ih, oneByOne, oneByOne, mapM_cons_eq]
      cases ps.mapM (·.outcome) with
      | error e => rfl
      | ok values => simp [Except.map, Except.bind]
    · rfl

@[simp] lemma oneByOne_map_tick (ps : List Pending) : oneByOne (ps.map tick) = oneByOne ps := by
  simp only [oneByOne, List.mapM_map]
  rfl

/-- The queue gives what waiting for one after the other gives, failures included. -/
lemma queue_eq (taken : List (Option Text)) (ps : List Pending) :
    queue taken ps = (oneByOne ps).map (taken ++ ·) := by
  fun_induction queue taken ps with
  | case1 taken ps e htake => rw [← takeReady_bind_oneByOne, htake]; rfl
  | case2 taken ps taken' htake =>
    rw [← takeReady_bind_oneByOne, htake]
    simp [Except.bind, Except.map, oneByOne, pure, Except.pure]
  | case3 taken ps taken' p rest htake ih =>
    rw [ih, oneByOne_map_tick, ← takeReady_bind_oneByOne taken, htake]
    rfl

/-! ## Rounds -/

/-- As long as no value that is ready has failed, a round brings all values one poll nearer. -/
lemma mapM_poll_eq_ok {ps : List Pending}
    (h : ∀ p ∈ ps, p.polls = 0 → ∃ value, p.outcome = .ok value) :
    ps.mapM poll = .ok (ps.map tick) := by
  refine mapM_eq_ok ?_
  rw [List.map_map]
  refine List.map_congr_left fun p hp => ?_
  obtain ⟨polls, outcome⟩ := p
  cases polls with
  | zero =>
    obtain ⟨value, rfl⟩ := h _ hp rfl
    rfl
  | succ n => cases outcome <;> rfl

/-- The value at a position fails with `error`; every other value that fails needs more polls, or as
many and stands further right. -/
def FailsFirst (ps : List Pending) (i : Nat) (error : FormatError) : Prop :=
  ∃ polls, ps[i]? = some ⟨polls, .error error⟩ ∧
    ∀ (j polls' : Nat) (error' : FormatError), ps[j]? = some ⟨polls', .error error'⟩ →
      polls < polls' ∨ (polls = polls' ∧ i ≤ j)

variable {ps : List Pending} {i : Nat} {error : FormatError}

/-- What a value that fails first has before the others. -/
lemma FailsFirst.before {polls : Nat} (hfirst : FailsFirst ps i error)
    (hi : ps[i]? = some ⟨polls, .error error⟩) {j polls' : Nat} {error' : FormatError}
    (hj : ps[j]? = some ⟨polls', .error error'⟩) : polls < polls' ∨ (polls = polls' ∧ i ≤ j) := by
  obtain ⟨n, hn, hbefore⟩ := hfirst
  rw [hi] at hn
  cases hn
  exact hbefore j polls' error' hj

/-- A round fails with the error of the value that fails first, when that one is ready. -/
lemma mapM_poll_eq_error (hi : ps[i]? = some ⟨0, .error error⟩) (hfirst : FailsFirst ps i error) :
    ps.mapM poll = .error error := by
  -- further left, no value is ready with an error
  refine mapM_eq_error_of_first hi rfl fun j hj p hp => ?_
  obtain ⟨polls, outcome⟩ := p
  cases polls with
  | succ n => cases outcome <;> exact ⟨_, rfl⟩
  | zero =>
    cases outcome with
    | ok value => exact ⟨_, rfl⟩
    | error e =>
      rcases hfirst.before hi hp with hlt | ⟨-, hle⟩
      · exact absurd hlt (Nat.lt_irrefl 0)
      · omega

/-- A round that is not the one of the value that fails first does not fail. -/
lemma FailsFirst.mapM_poll_eq_ok {n : Nat} (hi : ps[i]? = some ⟨n + 1, .error error⟩)
    (hfirst : FailsFirst ps i error) : ps.mapM poll = .ok (ps.map tick) := by
  refine Pending.mapM_poll_eq_ok fun p hp h0 => ?_
  obtain ⟨j, hj⟩ := List.mem_iff_getElem?.1 hp
  obtain ⟨polls, outcome⟩ := p
  cases h0
  cases outcome with
  | ok value => exact ⟨value, rfl⟩
  | error e =>
    rcases hfirst.before hi hj with hlt | ⟨heq, -⟩
    · exact absurd hlt (Nat.not_lt_zero _)
    · cases heq

/-- The value that fails first stays the first when all have come one poll nearer. -/
lemma FailsFirst.map_tick {n : Nat} (hi : ps[i]? = some ⟨n + 1, .error error⟩)
    (hfirst : FailsFirst ps i error) : FailsFirst (ps.map tick) i error := by
  refine ⟨n, by simp [hi, tick], fun j polls' error' hj => ?_⟩
  rw [List.getElem?_map, Option.map_eq_some_iff] at hj
  obtain ⟨⟨polls, outcome⟩, hp, htick⟩ := hj
  cases htick
  -- a value that is ready would have failed before, so all these counts go down by one
  have hbefore := hfirst.before hi hp
  simp only
  omega

/-- Rounds end with the error of the value that fails first. -/
lemma rounds_eq_error (hfirst : FailsFirst ps i error) : rounds ps = .error error := by
  obtain ⟨polls, hi, -⟩ := id hfirst
  -- a round fails, or all values are there, or another round follows; the polls that the first
  -- failure still needs tell which
  fun_induction rounds ps generalizing polls with
  | case1 ps e hround =>
    cases polls with
    | zero =>
      rw [mapM_poll_eq_error hi hfirst] at hround
      cases hround
      rfl
    | succ n => rw [hfirst.mapM_poll_eq_ok hi] at hround; cases hround
  | case2 ps qs hround hready =>
    have hp := List.all_eq_true.1 hready _ (List.mem_of_getElem? hi)
    cases polls with
    | zero => rw [mapM_poll_eq_error hi hfirst] at hround; cases hround
    | succ n => cases hp
  | case3 ps qs hround hready ih =>
    cases polls with
    | zero => rw [mapM_poll_eq_error hi hfirst] at hround; cases hround
    | succ n =>
      obtain rfl := eq_map_tick_of_mapM_poll hround
      exact ih (hfirst.map_tick hi) n (by simp [hi, tick])

/-- Rounds give the values of waiting for one after the other, when there are values. -/
lemma rounds_eq_ok (h : ∀ p ∈ ps, ∃ value, p.outcome = .ok value) : rounds ps = oneByOne ps := by
  fun_induction rounds ps with
  | case1 ps e hround =>
    rw [Pending.mapM_poll_eq_ok fun p hp _ => h p hp] at hround
    cases hround
  | case2 ps qs hround hready => rfl
  | case3 ps qs hround hready ih =>
    obtain rfl := eq_map_tick_of_mapM_poll hround
    rw [ih fun p hp => ?_, oneByOne_map_tick]
    obtain ⟨q, hq, rfl⟩ := List.mem_map.1 hp
    exact h q hq

/-- A value in front does not fail first when it needs more polls, or does not fail at all. -/
lemma FailsFirst.cons {polls : Nat} (hfirst : FailsFirst ps i error)
    (hi : ps[i]? = some ⟨polls, .error error⟩) {p : Pending}
    (hp : ∀ e, p.outcome = .error e → polls < p.polls) : FailsFirst (p :: ps) (i + 1) error := by
  refine ⟨polls, hi, fun j polls' error' hj => ?_⟩
  cases j with
  | zero =>
    cases hj
    exact .inl (hp error' rfl)
  | succ j =>
    have hj' : ps[j]? = some ⟨polls', .error error'⟩ := hj
    have hbefore := hfirst.before hi hj'
    omega

/-- A value in front fails first when none behind it needs fewer polls to fail. -/
lemma failsFirst_head {polls : Nat} (h : ∀ (j polls' : Nat) (error' : FormatError),
    ps[j]? = some ⟨polls', .error error'⟩ → polls ≤ polls') :
    FailsFirst (⟨polls, .error error⟩ :: ps) 0 error := by
  refine ⟨polls, rfl, fun j polls' error' hj => ?_⟩
  cases j with
  | zero =>
    cases hj
    exact .inr ⟨rfl, Nat.le_refl 0⟩
  | succ j =>
    have hj' : ps[j]? = some ⟨polls', .error error'⟩ := hj
    have hle := h j polls' error' hj'
    omega

/-- When some values fail, one of them fails first. -/
lemma exists_failsFirst (h : ∃ p ∈ ps, ∃ e, p.outcome = .error e) :
    ∃ i error, FailsFirst ps i error := by
  induction ps with
  | nil => obtain ⟨p, hp, -⟩ := h; cases hp
  | cons p ps ih =>
    obtain ⟨polls, outcome⟩ := p
    by_cases hps : ∃ q ∈ ps, ∃ e, q.outcome = .error e
    · obtain ⟨i, error, hfirst⟩ := ih hps
      obtain ⟨n, hi, -⟩ := id hfirst
      cases outcome with
      | ok value => exact ⟨i + 1, error, hfirst.cons hi nofun⟩
      | error e =>
        -- the head is the first one when it needs no more polls than the first one of the tail
        by_cases hle : polls ≤ n
        · refine ⟨0, e, failsFirst_head fun j polls' error' hj => ?_⟩
          have hbefore := hfirst.before hi hj
          omega
        · exact ⟨i + 1, error, hfirst.cons hi fun _ _ => Nat.lt_of_not_le hle⟩
    · obtain ⟨q, hq, e, he⟩ := h
      rcases List.mem_cons.1 hq with rfl | hq
      · cases he
        refine ⟨0, e, failsFirst_head fun j polls' error' hj => ?_⟩
        exact absurd ⟨_, List.mem_of_getElem? hj, error', rfl⟩ hps
      · exact absurd ⟨q, hq, e, he⟩ hps

/-! ## The join -/

/-- Without a failure the join gives the values of waiting for one after the other. -/
lemma join_eq_oneByOne (h : ∀ p ∈ ps, ∃ value, p.outcome = .ok value) :
    join ps = oneByOne ps := by
  unfold join
  split
  · exact rounds_eq_ok h
  · rw [queue_eq]
    cases oneByOne ps <;> rfl

/-- The join of up to `roundLimit` values fails with the error of the one that fails first. -/
lemma join_eq_error_of_failsFirst (hlength : ps.length ≤ roundLimit)
    (hfirst : FailsFirst ps i error) : join ps = .error error := by
  rw [join, if_pos hlength, rounds_eq_error hfirst]

/-- When some values fail, the join fails with the error of one of them. -/
lemma exists_failure_of_join (h : ∃ p ∈ ps, ∃ e, p.outcome = .error e) :
    ∃ p ∈ ps, ∃ e, p.outcome = .error e ∧ join ps = .error e := by
  unfold join
  split
  · obtain ⟨i, error, hfirst⟩ := exists_failsFirst h
    obtain ⟨polls, hi, -⟩ := id hfirst
    exact ⟨_, List.mem_of_getElem? hi, error, rfl, rounds_eq_error hfirst⟩
  · cases hone : oneByOne ps with
    | error e =>
      obtain ⟨p, hp, he⟩ := exists_of_mapM_eq_error hone
      exact ⟨p, hp, e, he, by rw [queue_eq, hone]; rfl⟩
    | ok values =>
      obtain ⟨p, hp, e, he⟩ := h
      obtain ⟨value, hv⟩ := exists_of_mapM_eq_ok hone p hp
      rw [hv] at he
      cases he

end Pending
end RuleTemplate
