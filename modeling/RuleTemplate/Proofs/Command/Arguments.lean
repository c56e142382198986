import Mathlib.Data.List.Infix
import RuleTemplate.Command.Arguments
import RuleTemplate.Proofs.Results
import RuleTemplate.Proofs.Text.Blank

/-!
# What arguments say

Arguments give an option its value behind an equals sign or as the next argument (`Gives`), and they
hold a flag or not. Reading arguments that are accepted finds exactly that (`Options.read_value`,
`Options.read_flag`), wherever in the list it stands: `State.Takes` has a case for each way in which
a state can take an argument, and what a state has and what is still to come make up what the
arguments say.
-/

namespace RuleTemplate.Command

/-- The argument that names an option. -/
def Opt.argument (o : Opt) : Text := '-' :: '-' :: o.name

/-- The argument that names a flag. -/
def Flag.argument (f : Flag) : Text := '-' :: '-' :: f.name

/-- Whether arguments give an option a value, behind an equals sign or as the next argument. -/
def Gives (arguments : List Text) (o : Opt) (v : Text) : Prop :=
  o.argument ++ '=' :: v ∈ arguments ∨ [o.argument, v] <:+: arguments

instance (arguments : List Text) (o : Opt) (v : Text) : Decidable (Gives arguments o v) :=
  inferInstanceAs (Decidable (_ ∨ _))

/-- The value of an option. -/
def Options.value? (os : Options) : Opt → Option Text
  | .event => some os.event
  | .template => os.template
  | .templateFile => os.templateFile

/-- Whether a flag is set, if options can tell. -/
def Options.flag? (os : Options) : Flag → Option Bool
  | .envelope => some os.envelope
  | .metrics => some os.metrics
  | .help | .version => none

variable {s s' : State} {o p : Opt} {f : Flag} {t v w : Text} {arguments : List Text} {os : Options}

/-! ## Names -/

lemma Opt.equals_notMem_argument (o : Opt) : '=' ∉ o.argument := by cases o <;> decide

lemma Flag.equals_notMem_argument (f : Flag) : '=' ∉ f.argument := by cases f <;> decide

lemma Opt.argument_inj : o.argument = p.argument ↔ o = p := by cases o <;> cases p <;> decide

lemma Flag.argument_inj {f g : Flag} : f.argument = g.argument ↔ f = g := by
  cases f <;> cases g <;> decide

lemma Opt.argument_ne_flag (o : Opt) (f : Flag) : o.argument ≠ f.argument := by
  cases o <;> cases f <;> decide

/-- The option and its value can be told from an argument that has both. -/
lemma Opt.attached_inj :
    o.argument ++ '=' :: v = p.argument ++ '=' :: w ↔ o = p ∧ v = w := by
  constructor
  · intro h
    have hname := congrArg (List.takeWhile (· ≠ '=')) h
    rw [Text.takeWhile_ne_append_cons o.equals_notMem_argument,
      Text.takeWhile_ne_append_cons p.equals_notMem_argument] at hname
    rw [hname, List.append_cancel_left_eq] at h
    exact ⟨argument_inj.1 hname, (List.cons.inj h).2⟩
  · rintro ⟨rfl, rfl⟩
    rfl

/-- An argument with an equals sign names no option and no flag. -/
lemma Opt.attached_ne (o : Opt) (v : Text) (h : '=' ∉ t) : o.argument ++ '=' :: v ≠ t := by
  rintro rfl
  exact h (by simp)

/-- What the first argument and those behind it give. -/
lemma gives_cons : Gives (t :: arguments) o v ↔
    o.argument ++ '=' :: v = t ∨ (o.argument = t ∧ arguments.head? = some v) ∨
      Gives arguments o v := by
  have hprefix : [v] <+: arguments ↔ arguments.head? = some v := by
    cases arguments with
    | nil => simp
    | cons u arguments => simp [List.cons_prefix_cons, eq_comm]
  unfold Gives
  rw [List.mem_cons, List.infix_cons_iff, List.cons_prefix_cons, hprefix]
  tauto

lemma not_gives_nil : ¬ Gives [] o v := by simp [Gives]

/-! ## One argument -/

namespace State

/-- Whether an option has a value that may still have to be judged. -/
def Has (s : State) (o : Opt) (v : Text) : Prop := s.value? o = some v ∨ s.pending = some (o, some v)

lemma has_iff_of_pending_eq_none (h : s.pending = none) : s.Has o v ↔ s.value? o = some v := by
  simp [Has, h]

/-- An option takes its first value. -/
lemma value?_of_takeOption (h : s.takeOption o (some v) = .ok s') :
    s'.pending = s.pending ∧ s'.flags = s.flags ∧
      ∀ p w, s'.value? p = some w ↔ s.value? p = some w ∨ (p = o ∧ w = v) := by
  simp only [takeOption] at h
  split at h
  · cases h
  next htaken =>
  have hnone : s.value? o = none := by simpa using htaken
  split at h
  · cases h
  cases h
  refine ⟨rfl, rfl, fun p w => ?_⟩
  by_cases hp : p = o
  · rw [hp, hnone, value?, List.lookup_cons_self, Option.some.injEq]
    simp [eq_comm]
  · have hkept : (s.values.lookup p = some w) = (s.value? p = some w) := rfl
    rw [value?, List.lookup_cons, beq_false_of_ne hp, hkept]
    simp [hp]

/-- When an option has been judged, what there is has been taken. -/
lemma value?_of_settle (h : s.settle = .ok s') :
    s'.pending = none ∧ s'.flags = s.flags ∧ (∀ o, s.pending ≠ some (o, none)) ∧
      ∀ o v, s'.value? o = some v ↔ s.Has o v := by
  unfold settle at h
  cases hpending : s.pending with
  | none =>
    rw [hpending] at h
    cases h
    exact ⟨hpending, rfl, by simp, fun o v => by simp [Has, hpending]⟩
  | some p =>
    obtain ⟨p, _ | w⟩ := p
    · rw [hpending] at h
      cases h
    · rw [hpending] at h
      obtain ⟨hnone, hflags, hvalue⟩ := value?_of_takeOption h
      refine ⟨hnone, hflags, by simp, fun o v => ?_⟩
      have hsame : ({ s with pending := none } : State).value? o = s.value? o := rfl
      rw [hvalue o v, hsame, Has, hpending]
      simp [eq_comm]

/-- How a state takes an argument. -/
inductive Takes (s : State) : Text → State → Prop where
  | close : Takes s ['-', '-'] { s with closed := true }
  | attached (o : Opt) (v : Text) {s₁ s' : State} (hsettle : s.settle = .ok s₁)
      (htake : s₁.takeOption o (some v) = .ok s') : Takes s (o.argument ++ '=' :: v) s'
  | named (o : Opt) {s₁ : State} (hsettle : s.settle = .ok s₁) :
      Takes s o.argument { s₁ with pending := some (o, none) }
  | flag (f : Flag) {s₁ s' : State} (hsettle : s.settle = .ok s₁) (htake : s₁.takeFlag f = .ok s') :
      Takes s f.argument s'
  | value {o : Opt} {t : Text} (hplain : ¬ ['-', '-'] <+: t) (hpending : s.pending = some (o, none)) :
      Takes s t { s with pending := some (o, some t) }

/-- An argument that begins with two hyphens is taken in one of these ways. -/
lemma takes_of_long {attached : Option Text} (h : s.long t attached = .ok s') :
    s.Takes ('-' :: '-' :: t ++ attached.elim [] ('=' :: ·)) s' := by
  unfold long at h
  split at h
  next o v hfind =>
    have hname : o.name = t := by simpa using List.find?_some hfind
    obtain ⟨s₁, hsettle, htake⟩ := Results.bind_eq_ok h
    rw [← hname]
    exact .attached o v hsettle htake
  next o hfind =>
    have hname : o.name = t := by simpa using List.find?_some hfind
    obtain ⟨s₁, hsettle, htake⟩ := Results.bind_eq_ok h
    cases htake
    rw [← hname, Option.elim_none, List.append_nil]
    exact .named o hsettle
  next => cases h
  next f hnone hfind =>
    have hname : f.name = t := by simpa using List.find?_some hfind
    obtain ⟨s₁, hsettle, htake⟩ := Results.bind_eq_ok h
    rw [← hname, Option.elim_none, List.append_nil]
    exact .flag f hsettle htake
  next => cases h

/-- Every argument that is accepted is taken in one of these ways, and none behind two hyphens. -/
lemma takes_of_step (h : s.step t = .ok s') : s.closed = false ∧ s.Takes t s' := by
  unfold step at h
  split at h
  · cases h
  next hopen =>
  refine ⟨by simpa using hopen, ?_⟩
  split at h
  · cases h
    exact .close
  next t _ =>
    by_cases hequals : '=' ∈ t
    · obtain ⟨name, v, rfl, hname⟩ := List.eq_append_cons_of_mem hequals
      simp only [Text.takeWhile_ne_append_cons hname, List.drop_left] at h
      exact takes_of_long h
    · have hname : t.takeWhile (· ≠ '=') = t :=
        List.takeWhile_eq_self_iff.2 (Text.forall_ne_of_notMem hequals)
      simp only [hname, List.drop_length] at h
      simpa using takes_of_long h
  next letter t hne hlong =>
    -- help and the version end the reading
    unfold short at h
    split at h
    · obtain ⟨s₁, -, htake⟩ := Results.bind_eq_ok h
      cases htake
    split at h
    · obtain ⟨s₁, -, htake⟩ := Results.bind_eq_ok h
      cases htake
    · cases h
  next t _ hlong _ =>
    unfold plain at h
    split at h
    next o hpending =>
      cases h
      refine .value ?_ hpending
      rintro ⟨name, rfl⟩
      exact hlong name rfl
    next => cases h

/-- A flag is taken as often as it is allowed, and changes no value. -/
lemma flags_of_takeFlag (h : s.takeFlag f = .ok s') : s' = { s with flags := f :: s.flags } := by
  unfold takeFlag at h
  split at h
  · cases h
  · cases h
  all_goals
    split at h
    · cases h
    · cases h
      rfl

/-- What an argument adds to a state: a value behind an equals sign, or that of the option that
waits for one, or an option that now waits, or a flag. -/
structure Adds (s : State) (t : Text) (s' : State) : Prop where
  has : ∀ o v, s'.Has o v ↔
    s.Has o v ∨ o.argument ++ '=' :: v = t ∨ (s.pending = some (o, none) ∧ t = v)
  pending : ∀ o, s'.pending = some (o, none) ↔ o.argument = t
  flags : ∀ f, f ∈ s'.flags ↔ f ∈ s.flags ∨ f.argument = t

/-- However an argument is taken, it adds what it says. -/
lemma Takes.adds (h : s.Takes t s')
    (hclosed : s'.closed = true → ∀ o, s'.pending ≠ some (o, none)) : s.Adds t s' := by
  cases h with
  | close =>
    have hpending : ∀ o, s.pending ≠ some (o, none) := hclosed rfl
    have hhas : ∀ o v, ({ s with closed := true } : State).Has o v ↔ s.Has o v := fun _ _ => .rfl
    refine ⟨fun o v => ?_, fun o => ?_, fun f => ?_⟩
    · have hne : o.argument ++ '=' :: v ≠ ['-', '-'] := o.attached_ne v (by decide)
      simp [hhas, hne, hpending]
    · have hne : o.argument ≠ ['-', '-'] := by cases o <;> decide
      simp [hne, hpending]
    · have hne : f.argument ≠ ['-', '-'] := by cases f <;> decide
      simp [hne]
  | attached o v hsettle htake =>
    obtain ⟨hnone, hflags, hopen, hvalue⟩ := value?_of_settle hsettle
    obtain ⟨hpending, hflags', hvalue'⟩ := value?_of_takeOption htake
    rw [hnone] at hpending
    refine ⟨fun p w => ?_, fun p => ?_, fun f => ?_⟩
    · rw [has_iff_of_pending_eq_none hpending, hvalue', hvalue, Opt.attached_inj]
      simp [hopen]
    · have hne := o.attached_ne v p.equals_notMem_argument
      simp [hpending, hne.symm]
    · have hne := o.attached_ne v f.equals_notMem_argument
      simp [hflags', hflags, hne.symm]
  | @named o s₁ hsettle =>
    obtain ⟨-, hflags, hopen, hvalue⟩ := value?_of_settle hsettle
    refine ⟨fun p w => ?_, fun p => ?_, fun f => ?_⟩
    · have hne := p.attached_ne w o.equals_notMem_argument
      have hhas : ({ s₁ with pending := some (o, none) } : State).Has p w ↔ s₁.value? p = some w := by
        simp [Has, value?]
      rw [hhas, hvalue]
      simp [hopen, hne]
    · simp [Opt.argument_inj, eq_comm]
    · simp [hflags, (o.argument_ne_flag f).symm]
  | @flag g s₁ _ hsettle htake =>
    obtain ⟨hnone, hflags, hopen, hvalue⟩ := value?_of_settle hsettle
    cases flags_of_takeFlag htake
    refine ⟨fun p w => ?_, fun p => ?_, fun f => ?_⟩
    · have hne := p.attached_ne w g.equals_notMem_argument
      have hhas : ({ s₁ with flags := g :: s₁.flags } : State).Has p w ↔ s₁.value? p = some w :=
        has_iff_of_pending_eq_none hnone
      rw [hhas, hvalue]
      simp [hopen, hne]
    · simp [hnone, p.argument_ne_flag g]
    · simp [hflags, Flag.argument_inj, or_comm]
  | @value o t hplain hpending =>
    refine ⟨fun p w => ?_, fun p => ?_, fun f => ?_⟩
    · have hne : p.argument ++ '=' :: w ≠ t := fun heq => hplain (heq ▸ ⟨p.name ++ '=' :: w, rfl⟩)
      simp [Has, value?, hpending, hne]
    · have hne : p.argument ≠ t := fun heq => hplain (heq ▸ ⟨p.name, rfl⟩)
      simp [hne]
    · have hne : f.argument ≠ t := fun heq => hplain (heq ▸ ⟨f.name, rfl⟩)
      simp [hne]

/-- At the end the last option is judged, and there is one template at most. -/
lemma exists_settle_of_finish (h : s.finish = .ok os) :
    ∃ s₁, s.settle = .ok s₁ ∧ (∀ o, os.value? o = s₁.value? o) ∧
      (os.template = none ∨ os.templateFile = none) ∧
      ∀ f b, os.flag? f = some b → (b = true ↔ f ∈ s₁.flags) := by
  obtain ⟨s₁, hsettle, hfinish⟩ := Results.bind_eq_ok h
  simp only [Results.pure_eq_ok] at hfinish
  split at hfinish
  · cases hfinish
  next hone =>
  split at hfinish
  · cases hfinish
  next event hevent =>
  cases hfinish
  refine ⟨s₁, hsettle, ?_, ?_, ?_⟩
  · intro o
    cases o
    · exact hevent.symm
    · rfl
    · rfl
  · simpa [or_iff_not_imp_left, Option.isSome_iff_ne_none] using hone
  · intro f b hf
    cases f <;> cases hf <;> simp

/-! ## All arguments -/

/-- What options say that are read from a state on and arguments behind it. -/
structure Tells (s : State) (arguments : List Text) (os : Options) : Prop where
  value : ∀ o v, os.value? o = some v ↔
    s.Has o v ∨ (s.pending = some (o, none) ∧ arguments.head? = some v) ∨ Gives arguments o v
  flag : ∀ f b, os.flag? f = some b → (b = true ↔ f ∈ s.flags ∨ f.argument ∈ arguments)

lemma tells_of_finish (h : s.finish = .ok os) :
    (∀ o, s.pending ≠ some (o, none)) ∧ s.Tells [] os := by
  obtain ⟨s₁, hsettle, hvalue, -, hflag⟩ := exists_settle_of_finish h
  obtain ⟨-, hflags, hpending, hvalue'⟩ := value?_of_settle hsettle
  refine ⟨hpending, fun o v => ?_, fun f b hf => ?_⟩
  · rw [hvalue, hvalue']
    simp [not_gives_nil, hpending]
  · rw [hflag f b hf, hflags]
    simp

/-- What is said of an argument is taken into the state. -/
lemma Adds.tells (hadds : s.Adds t s') (h : s'.Tells arguments os) :
    s.Tells (t :: arguments) os where
  value o v := by
    rw [h.value, hadds.has, hadds.pending, gives_cons, List.head?_cons, Option.some.injEq]
    tauto
  flag f b hf := by
    rw [h.flag f b hf, hadds.flags, List.mem_cons]
    tauto

/-- Arguments that are accepted up to the end tell what they add to a state. -/
lemma tells_of_read (h : (arguments.foldlM step s >>= finish) = .ok os) :
    s.Tells arguments os := by
  induction arguments generalizing s with
  | nil => exact (tells_of_finish h).2
  | cons t arguments ih =>
    rw [List.foldlM_cons, bind_assoc] at h
    obtain ⟨s', hstep, hrest⟩ := Results.bind_eq_ok h
    refine ((takes_of_step hstep).2.adds fun hclosed => ?_).tells (ih hrest)
    -- behind two hyphens there can be no argument
    cases arguments with
    | nil => exact (tells_of_finish hrest).1
    | cons u arguments =>
      rw [List.foldlM_cons, bind_assoc] at hrest
      obtain ⟨s'', hstep', -⟩ := Results.bind_eq_ok hrest
      rw [(takes_of_step hstep').1] at hclosed
      cases hclosed

end State

namespace Options

variable (h : Options.read arguments = .ok os)
include h

lemma tells_of_read : State.start.Tells arguments os := State.tells_of_read h

/-- Options have the values that the arguments give, and no others. -/
theorem read_value (o : Opt) (v : Text) : os.value? o = some v ↔ Gives arguments o v := by
  rw [(tells_of_read h).value]
  simp [State.Has, State.value?, State.start]

/-- A flag is set when it is among the arguments. -/
theorem read_flag {b : Bool} (hf : os.flag? f = some b) : b = true ↔ f.argument ∈ arguments := by
  rw [(tells_of_read h).flag f b hf]
  simp [State.start]

/-- A template is given as a text or as a file, not as both. -/
theorem read_template : os.template = none ∨ os.templateFile = none := by
  obtain ⟨s, -, hfinish⟩ := Results.bind_eq_ok h
  obtain ⟨-, -, -, hone, -⟩ := State.exists_settle_of_finish hfinish
  exact hone

end Options
end RuleTemplate.Command
