import RuleTemplate.Decode.Shape
import RuleTemplate.Proofs.Json.Run
import RuleTemplate.Proofs.KeyMap

/-!
# Members that are not declared

`Json.Widened names R v w` says that the object `w` is the object `v` with other members in between,
which have none of the given names; `R` relates the values of the members that stay, so that the
objects among them can be widened as well.

A decoder that gives the same for related values ignores the relation (`Decoder.Ignores`). A record
ignores members that it does not declare, whether it can be decoded or not, if its shape ignores
what may change in the members that stay (`Shape.Ignores.decoder`); that is shown name by name,
along the shape.
-/

namespace RuleTemplate

namespace Json

/-- The members `ns` are `members` with others in between that have none of the given names. What
stands under the name of a member that stays is related to what stood there. -/
inductive WidenedMembers (names : List Text) (R : Text → Json → Json → Prop) :
    Members → Members → Prop
  | nil : WidenedMembers names R [] []
  | keep {name : Text} {v w : Json} {members ns : Members} (hvalue : R name v w)
      (hrest : WidenedMembers names R members ns) :
      WidenedMembers names R ((name, v) :: members) ((name, w) :: ns)
  | add {name : Text} {w : Json} {members ns : Members} (hname : name ∉ names)
      (hrest : WidenedMembers names R members ns) :
      WidenedMembers names R members ((name, w) :: ns)

/-- The object `w` is the object `v` with members in between that have none of the given names. -/
def Widened (names : List Text) (R : Text → Json → Json → Prop) (v w : Json) : Prop :=
  ∃ members ns, v = .object members ∧ w = .object ns ∧ WidenedMembers names R members ns

/-- Both values are `null`, or they are related. -/
def NullOr (W : Json → Json → Prop) (v w : Json) : Prop := v = .null ∧ w = .null ∨ W v w

/-- Both values are lists, and their items are related one by one. -/
def ListOf (W : Json → Json → Prop) (v w : Json) : Prop :=
  ∃ items items', v = .list items ∧ w = .list items' ∧ List.Forall₂ W items items'

/-- Under each of the names there are related values, or none on both sides. -/
def Matches (names : List Text) (R : Text → Json → Json → Prop) (members ns : Members) : Prop :=
  ∀ name ∈ names, Option.Rel (R name) (members.lookup name) (ns.lookup name)

variable {names : List Text} {R : Text → Json → Json → Prop} {W : Json → Json → Prop} {v w : Json}
  {members ns : Members}

lemma Matches.lookup (h : Matches names R members ns) {name : Text} (hname : name ∈ names) :
    (members.lookup name = none ∧ ns.lookup name = none) ∨
      ∃ v w, members.lookup name = some v ∧ ns.lookup name = some w ∧ R name v w := by
  have hrel := h name hname
  cases hv : members.lookup name with
  | none =>
    cases hw : ns.lookup name with
    | none => exact .inl ⟨rfl, rfl⟩
    | some w => rw [hv, hw] at hrel; cases hrel
  | some v =>
    cases hw : ns.lookup name with
    | none => rw [hv, hw] at hrel; cases hrel
    | some w =>
      rw [hv, hw] at hrel
      cases hrel with
      | some hvw => exact .inr ⟨v, w, rfl, rfl, hvw⟩

namespace WidenedMembers

/-- Under the given names, the same is found. -/
lemma matches_names (h : WidenedMembers names R members ns) : Matches names R members ns := by
  intro name hname
  induction h with
  | nil => exact .none
  | @keep other v w members ns hvalue _ ih =>
    rw [List.lookup_cons, List.lookup_cons]
    by_cases heq : name = other
    · rw [heq, beq_self_eq_true]
      exact .some hvalue
    · rw [beq_false_of_ne heq]
      exact ih
  | @add other w members ns hother _ ih =>
    have hne : name ≠ other := fun heq => hother (heq ▸ hname)
    rw [List.lookup_cons, beq_false_of_ne hne]
    exact ih

/-- Members can be left out by their names. -/
lemma filter (h : WidenedMembers names R members ns) (p : Text → Bool) :
    WidenedMembers names R (members.filter fun m => p m.1) (ns.filter fun n => p n.1) := by
  induction h with
  | nil => exact .nil
  | @keep name v w members ns hvalue _ ih =>
    rw [List.filter_cons, List.filter_cons]
    split
    · exact .keep hvalue ih
    · exact ih
  | @add name w members ns hname _ ih =>
    rw [List.filter_cons]
    split
    · exact .add hname ih
    · exact ih

/-- The members of a given name stay as they are, if their values do. -/
lemma filter_eq {name : Text} (h : WidenedMembers names R members ns) (hname : name ∈ names)
    (hR : ∀ v w, R name v w → v = w) : ns.filter (·.1 = name) = members.filter (·.1 = name) := by
  induction h with
  | nil => rfl
  | @keep other v w members ns hvalue _ ih =>
    rw [List.filter_cons, List.filter_cons, ih]
    by_cases heq : other = name
    · rw [hR v w (heq ▸ hvalue)]
    · rw [if_neg (by simpa using heq), if_neg (by simpa using heq)]
  | @add other w members ns hother _ ih =>
    have hne : other ≠ name := fun heq => hother (heq ▸ hname)
    rw [List.filter_cons_of_neg (by simpa using hne), ih]

end WidenedMembers

/-! ## What is read from the text -/

/-- The relation holds of what is read from the texts of related values. -/
def Stable (W : Json → Json → Prop) : Prop := ∀ v w, W v w → W v.reread w.reread

lemma stable_eq : Stable Eq := by
  rintro v _ rfl
  rfl

lemma Stable.nullOr (h : Stable W) : Stable (NullOr W) := by
  rintro v w (⟨rfl, rfl⟩ | hvw)
  · exact .inl ⟨rfl, rfl⟩
  · exact .inr (h v w hvw)

lemma Stable.listOf (h : Stable W) : Stable (ListOf W) := by
  rintro v w ⟨items, items', rfl, rfl, hitems⟩
  refine ⟨_, _, by rw [reread], by rw [reread], ?_⟩
  rw [rereadItems_eq_map, rereadItems_eq_map, List.forall₂_map_left_iff, List.forall₂_map_right_iff]
  exact hitems.imp h

lemma Stable.widened (h : ∀ name, Stable (R name)) : Stable (Widened names R) := by
  rintro v w ⟨members, ns, rfl, rfl, hmembers⟩
  refine ⟨_, _, by rw [reread], by rw [reread], ?_⟩
  induction hmembers with
  | nil => exact .nil
  | keep hvalue _ ih => exact .keep (h _ _ _ hvalue) ih
  | add hname _ ih => exact .add hname ih

end Json

open Json (Widened WidenedMembers NullOr ListOf Matches)

/-! ## Decoders -/

namespace Decoder

variable {α : Type} {decode : Decoder α} {W : Json → Json → Prop}

/-- The decoder gives the same for related values. -/
def Ignores (decode : Decoder α) (W : Json → Json → Prop) : Prop :=
  ∀ scope v w, W v w → decode scope w = decode scope v

lemma ignores_eq (decode : Decoder α) : decode.Ignores Eq := by
  rintro scope v _ rfl
  rfl

lemma Ignores.nullOr (h : decode.Ignores W) : decode.Ignores (NullOr W) := by
  rintro scope v w (⟨rfl, rfl⟩ | hvw)
  · rfl
  · exact h scope v w hvw

lemma Ignores.nullable {names : List Text} {R : Text → Json → Json → Prop}
    (h : decode.Ignores (Widened names R)) :
    (nullable decode).Ignores (NullOr (Widened names R)) := by
  rintro scope v w (⟨rfl, rfl⟩ | ⟨members, ns, rfl, rfl, hmembers⟩)
  · rfl
  · show some <$> decode scope (.object ns) = some <$> decode scope (.object members)
    rw [h scope _ _ ⟨members, ns, rfl, rfl, hmembers⟩]

lemma Ignores.list (h : decode.Ignores W) : (list decode).Ignores (ListOf W) := by
  rintro scope v w ⟨items, items', rfl, rfl, hitems⟩
  show items'.mapM (decode scope) = items.mapM (decode scope)
  induction hitems with
  | nil => rfl
  | cons hitem _ ih => rw [Results.mapM_cons_eq, Results.mapM_cons_eq, h scope _ _ hitem, ih]

end Decoder

/-! ## Records -/

namespace Shape

variable {α β : Type} {s : Shape α} {name : Text} {decode : Decoder α} {names : List Text}
  {R : Text → Json → Json → Prop} {members ns : Json.Members}

/-- The shape gives the same for members whose values are related. -/
structure Ignores (s : Shape α) (R : Text → Json → Json → Prop) : Prop where
  tests : ∀ f ∈ s.fields, f.2.Ignores (R f.1)
  build : ∀ members ns, Matches s.names R members ns → ∀ missing scope,
    s.build missing scope ns = s.build missing scope members

lemma ignores_required (h : decode.Ignores (R name)) : (required name decode).Ignores R where
  tests f hf scope v w hvw := by
    obtain rfl := List.mem_singleton.1 hf
    show (decode scope w).map _ = (decode scope v).map _
    rw [h scope v w hvw]
  build members ns hns missing scope := by
    simp only [required]
    rcases hns.lookup (List.mem_singleton.2 rfl) with ⟨hv, hw⟩ | ⟨v, w, hv, hw, hvw⟩
    · rw [hv, hw]
    · rw [hv, hw]
      exact h scope v w hvw

lemma ignores_optional {default : α} (h : decode.Ignores (R name)) :
    (optional name decode default).Ignores R where
  tests := (ignores_required h).tests
  build members ns hns missing scope := by
    simp only [optional]
    rcases hns.lookup (List.mem_singleton.2 rfl) with ⟨hv, hw⟩ | ⟨v, w, hv, hw, hvw⟩
    · rw [hv, hw]
    · rw [hv, hw]
      exact h scope v w hvw

lemma Ignores.seq {f : Shape (α → β)} (hf : f.Ignores R) (hs : s.Ignores R) :
    (f <*> s).Ignores R where
  tests field hfield := by
    rcases List.mem_append.1 hfield with hfield | hfield
    · exact hf.tests field hfield
    · exact hs.tests field hfield
  build members ns hns missing scope := by
    have hnames : (f <*> s).names = f.names ++ s.names := List.map_append
    have hleft := hf.build members ns (fun n hn => hns n (hnames ▸ List.mem_append_left _ hn))
      missing scope
    have hright := hs.build members ns (fun n hn => hns n (hnames ▸ List.mem_append_right _ hn))
      missing scope
    show (do let g ← f.build missing scope ns; return g (← s.build missing scope ns)) = _
    rw [hleft, hright]
    rfl

lemma ignores_pure (a : α) : (pure a : Shape α).Ignores R where
  tests _ hf := by cases hf
  build _ _ _ _ _ := rfl

lemma Ignores.map (g : α → β) (hs : s.Ignores R) : (g <$> s).Ignores R := (ignores_pure g).seq hs

/-- Members that are not declared are passed over, whatever they are. -/
lemma Ignores.check_eq (hs : s.Ignores R) (hnames : ∀ name ∈ s.names, name ∈ names)
    (h : WidenedMembers names R members ns) (scope : Scope) (seen : List Text) :
    s.check scope seen ns = s.check scope seen members := by
  induction h generalizing seen with
  | nil => rfl
  | @keep name v w members ns hvalue _ ih =>
    rw [check, check]
    cases hlookup : s.fields.lookup name with
    | none => exact ih seen
    | some test =>
      have htest : test scope w = test scope v :=
        hs.tests (name, test) (mem_of_lookup hlookup) scope v w hvalue
      simp only [htest, ih]
  | @add name w members ns hname _ ih =>
    have hlookup : s.fields.lookup name = none :=
      lookup_eq_none_of_notMem fun hmem => hname (hnames name hmem)
    rw [check, hlookup]
    exact ih seen

lemma Ignores.ofMembers_eq (hs : s.Ignores R) (hnames : ∀ name ∈ s.names, name ∈ names)
    (h : WidenedMembers names R members ns) (scope : Scope) :
    s.ofMembers scope ns = s.ofMembers scope members := by
  have hmatches : Matches s.names R members ns := fun name hname =>
    h.matches_names name (hnames name hname)
  rw [ofMembers, ofMembers, hs.check_eq hnames h, hs.build members ns hmatches]

/-- A record ignores members that it does not declare. -/
lemma Ignores.decoder (hs : s.Ignores R) (hnames : ∀ name ∈ s.names, name ∈ names)
    (record : Text) : (s.decoder record).Ignores (Widened names R) := by
  rintro scope v w ⟨members, ns, rfl, rfl, hmembers⟩
  exact hs.ofMembers_eq hnames hmembers scope

end Shape
end RuleTemplate
