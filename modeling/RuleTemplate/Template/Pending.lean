import RuleTemplate.Template.Script

/-!
# Values to be waited for

What is put in place of a placeholder may have to be waited for: a `Pending` value is ready after
some polls, and then is a text, nothing, or an error that ends the rendering. `Pending.join` waits
for several values at once:

* a few of them are polled in rounds from left to right, until all are ready, and the first error
  met counts (`Pending.rounds`);
* many are polled in any order, and as soon as the first that was not taken yet is ready it is taken
  (`Pending.queue`).
-/

namespace RuleTemplate

/-- Why a template is not rendered. -/
inductive FormatError where
  /-- An extension failed. -/
  | extension (reason : Text)
  /-- A script has no result. -/
  | script (fault : Script.Fault)
  /-- A value cannot be written as JSON. -/
  | serialization (reason : Text)
  /-- An extension claimed more than there is, or a part of a character. -/
  | invalidSpan (offset consumed : Nat)
deriving DecidableEq, Repr

/-- The wording of an error. -/
def FormatError.message : FormatError → Text
  | .extension reason => "Formatter extension failed: " ++ reason
  | .script fault => fault.message
  | .serialization reason => "Serialization error: " ++ reason
  | .invalidSpan offset consumed =>
    "Extension claimed invalid span of " ++ Text.ofNat consumed ++ (" bytes at offset " : Text)
      ++ Text.ofNat offset

/-- A value to be waited for: it is ready when it was polled `polls` times and is polled again. No
value means that there is nothing to put in place of the placeholder. -/
structure Pending where
  polls : Nat
  outcome : Except FormatError (Option Text)

namespace Pending

/-- A value that is there already. -/
def ready (value : Option Text) : Pending := ⟨0, .ok value⟩

/-- The same value when it was polled once more. -/
def tick (p : Pending) : Pending := { p with polls := p.polls - 1 }

/-- How many polls are needed altogether. -/
def load : List Pending → Nat
  | [] => 0
  | p :: ps => p.polls + load ps

@[simp] theorem load_nil : load [] = 0 := rfl

@[simp] theorem load_cons (p : Pending) (ps : List Pending) :
    load (p :: ps) = p.polls + load ps := rfl

theorem load_tick_le (ps : List Pending) : load (ps.map tick) ≤ load ps := by
  induction ps with
  | nil => simp
  | cons p ps ih => simp [tick]; omega

/-- Polling brings a value nearer that is not ready. -/
theorem load_tick_lt {ps : List Pending} {p : Pending} (hp : p ∈ ps) (h : p.polls ≠ 0) :
    load (ps.map tick) < load ps := by
  induction ps with
  | nil => simp at hp
  | cons q ps ih =>
    have hle := load_tick_le ps
    rcases List.mem_cons.1 hp with rfl | hp
    · simp [tick]; omega
    · have := ih hp
      simp [tick]; omega

/-- The values of all, each waited for before the next. -/
def oneByOne (ps : List Pending) : Except FormatError (List (Option Text)) := ps.mapM (·.outcome)

/-! ## In rounds -/

/-- Whether the value is ready. -/
def isReady (p : Pending) : Bool := p.polls == 0

/-- Polls once: a value that is ready and failed ends the waiting. -/
def poll (p : Pending) : Except FormatError Pending :=
  match p with
  | ⟨0, .error e⟩ => .error e
  | p => .ok p.tick

theorem eq_tick_of_poll {p q : Pending} (h : p.poll = .ok q) : q = p.tick := by
  unfold poll at h
  split at h <;> cases h
  rfl

/-- When no poll of a round fails, all values have come one poll nearer. -/
theorem eq_map_tick_of_mapM_poll {ps qs : List Pending} (h : ps.mapM poll = .ok qs) :
    qs = ps.map tick := by
  induction ps generalizing qs with
  | nil => cases h; rfl
  | cons p ps ih =>
    rw [List.mapM_cons] at h
    cases hp : p.poll with
    | error e => rw [hp] at h; cases h
    | ok q =>
      cases hps : ps.mapM poll with
      | error e => rw [hp, hps] at h; cases h
      | ok rest =>
        rw [hp, hps] at h
        cases h
        rw [List.map_cons, eq_tick_of_poll hp, ih hps]

/-- Another round is needed as long as there are values that are not ready, and brings them
nearer. -/
theorem load_lt_of_mapM_poll {ps qs : List Pending} (h : ps.mapM poll = .ok qs)
    (hr : ¬ ps.all isReady = true) : load qs < load ps := by
  obtain ⟨p, hp, hp0⟩ := List.all_eq_false.1 (Bool.eq_false_iff.2 hr)
  rw [eq_map_tick_of_mapM_poll h]
  exact load_tick_lt hp (mt beq_iff_eq.2 hp0)

/-- Polls all, from left to right, in as many rounds as it takes until all are ready. -/
def rounds (ps : List Pending) : Except FormatError (List (Option Text)) :=
  match _h : ps.mapM poll with
  | .error e => .error e
  | .ok qs => if _hr : ps.all isReady = true then oneByOne ps else rounds qs
termination_by load ps
decreasing_by exact load_lt_of_mapM_poll _h _hr

/-! ## In a queue -/

/-- Takes values from the front as long as they are ready. -/
def takeReady (taken : List (Option Text)) :
    List Pending → Except FormatError (List (Option Text) × List Pending)
  | ⟨0, .error e⟩ :: _ => .error e
  | ⟨0, .ok value⟩ :: ps => takeReady (taken ++ [value]) ps
  | ps => .ok (taken, ps)

/-- What is not taken begins with a value that is not ready. -/
theorem load_lt_of_takeReady {taken taken' : List (Option Text)} {ps rest : List Pending}
    {p : Pending} (h : takeReady taken ps = .ok (taken', p :: rest)) :
    load ((p :: rest).map tick) < load ps := by
  induction ps generalizing taken with
  | nil => simp [takeReady] at h
  | cons q ps ih =>
    unfold takeReady at h
    split at h
    · cases h
    · next heq =>
      cases heq
      simpa using ih h
    · next hne heq =>
      cases h
      refine load_tick_lt (List.mem_cons_self ..) fun h0 => ?_
      obtain ⟨polls, outcome⟩ := p
      cases h0
      cases outcome with
      | error e => exact absurd rfl (hne e rest)
      | ok value => exact absurd rfl (heq value rest)

/-- Takes the values in their order, as they become ready, behind those that were taken before. -/
def queue (taken : List (Option Text)) (ps : List Pending) :
    Except FormatError (List (Option Text)) :=
  match _h : takeReady taken ps with
  | .error e => .error e
  | .ok (taken, []) => .ok taken
  | .ok (taken, p :: rest) => queue taken ((p :: rest).map tick)
termination_by load ps
decreasing_by exact load_lt_of_takeReady _h

/-! ## Together -/

/-- Up to how many values are polled in rounds from left to right. -/
def roundLimit : Nat := 30

/-- The values of all, in their order. -/
def join (ps : List Pending) : Except FormatError (List (Option Text)) :=
  if ps.length ≤ roundLimit then rounds ps else queue [] ps

end Pending

end RuleTemplate
