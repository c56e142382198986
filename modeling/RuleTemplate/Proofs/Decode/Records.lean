import Mathlib.Data.Option.Defs
import RuleTemplate.Decode.Shape
import RuleTemplate.Proofs.Decode.Values

/-!
# Records are decoded member by member

A shape looks only at what stands under its names. `Shape.Finds names members ns` says that `ns` has
there what `members` has, in whatever order; `Shape.Makes s members a` says that the record `a` is
made of all such members. It is shown name by name, along the shape.

That the members pass the test, which goes through them from left to right, needs also that no known
name comes twice (`Shape.ofMembers_eq_ok`). Unknown members do not matter.
-/

namespace RuleTemplate

open Json (Reordered)

namespace Shape

variable {α β : Type} {s : Shape α} {x : Shape β} {members ns : Json.Members} {name : Text}
  {decode : Decoder α} {v : Json} {a : α} {scope : Scope}

/-- Under each of the names, `ns` has a reordering of what `members` has. -/
def Finds (names : List Text) (members ns : Json.Members) : Prop :=
  ∀ name ∈ names, Option.Rel Reordered (members.lookup name) (ns.lookup name)

/-- The members, and all that are found under the same names, make the record `a`. -/
structure Makes (s : Shape α) (members : Json.Members) (a : α) : Prop where
  tests : ∀ ns, Finds s.names members ns → ∀ f ∈ s.fields, ∀ v, ns.lookup f.1 = some v →
    ∀ scope, f.2 scope v = .ok ()
  build : ∀ ns, Finds s.names members ns → ∀ missing scope, s.build missing scope ns = .ok a

/-! ## Members one by one -/

lemma Finds.exists_lookup {names : List Text} (h : Finds names members ns) (hmem : name ∈ names)
    (hv : members.lookup name = some v) : ∃ w, ns.lookup name = some w ∧ Reordered v w := by
  have hname := h name hmem
  rw [hv] at hname
  cases hw : ns.lookup name with
  | none => rw [hw] at hname; cases hname
  | some w =>
    rw [hw] at hname
    cases hname with
    | some hvw => exact ⟨w, rfl, hvw⟩

lemma Finds.lookup_eq_none {names : List Text} (h : Finds names members ns) (hmem : name ∈ names)
    (hv : members.lookup name = none) : ns.lookup name = none := by
  have hname := h name hmem
  rw [hv] at hname
  cases hw : ns.lookup name with
  | none => rfl
  | some w => rw [hw] at hname; cases hname

/-- A member that is there passes its test. -/
lemma test_of_accepts (hv : decode.Accepts v a) {w : Json} (hw : Reordered v w) :
    test decode scope w = .ok () := by
  rw [test, hv scope w hw]
  rfl

lemma makes_required (hlookup : members.lookup name = some v) (hv : decode.Accepts v a) :
    (required name decode).Makes members a where
  tests ns hns f hf w hw scope := by
    obtain rfl := List.mem_singleton.1 hf
    obtain ⟨w', hw', hvw⟩ := hns.exists_lookup (List.mem_singleton.2 rfl) hlookup
    obtain rfl : w' = w := Option.some.inj (hw'.symm.trans hw)
    exact test_of_accepts hv hvw
  build ns hns missing scope := by
    obtain ⟨w, hw, hvw⟩ := hns.exists_lookup (List.mem_singleton.2 rfl) hlookup
    simp only [required, hw]
    exact hv scope w hvw

lemma makes_optional {default : α} (hlookup : members.lookup name = some v)
    (hv : decode.Accepts v a) : (optional name decode default).Makes members a where
  tests := (makes_required hlookup hv).tests
  build ns hns missing scope := by
    obtain ⟨w, hw, hvw⟩ := hns.exists_lookup (List.mem_singleton.2 rfl) hlookup
    simp only [optional, hw]
    exact hv scope w hvw

/-- A member that is left out has its default. -/
lemma makes_default {default : α} (hlookup : members.lookup name = none) :
    (optional name decode default).Makes members default where
  tests ns hns f hf w hw scope := by
    obtain rfl := List.mem_singleton.1 hf
    rw [hns.lookup_eq_none (List.mem_singleton.2 rfl) hlookup] at hw
    cases hw
  build ns hns missing scope := by
    simp only [optional, hns.lookup_eq_none (List.mem_singleton.2 rfl) hlookup]

/-- A member that is left out where there is no value. -/
lemma makes_nullable {f : α → Json} {value : Option α}
    (hlookup : members.lookup name = value.map f) (hnull : ∀ a, (f a).isNull = false)
    (h : ∀ a, value = some a → decode.Accepts (f a) a) :
    (optional name (Decoder.nullable decode) none).Makes members value := by
  cases value with
  | none => exact makes_default hlookup
  | some a => exact makes_optional hlookup (Decoder.accepts_some (hnull a) (h a rfl))

/-! ## Members side by side -/

/-- What is found under the names of both shapes is found under those of each. -/
lemma Finds.of_seq {f : Shape (α → β)} (h : Finds (f <*> s).names members ns) :
    Finds f.names members ns ∧ Finds s.names members ns := by
  have hnames : (f <*> s).names = f.names ++ s.names := List.map_append
  rw [hnames] at h
  exact ⟨fun n hn => h n (List.mem_append_left _ hn), fun n hn => h n (List.mem_append_right _ hn)⟩

lemma Makes.seq {f : Shape (α → β)} {g : α → β} (hf : f.Makes members g) (hs : s.Makes members a) :
    (f <*> s).Makes members (g a) where
  tests ns hns field hfield w hw scope := by
    obtain ⟨hleft, hright⟩ := hns.of_seq
    rcases List.mem_append.1 hfield with hfield | hfield
    · exact hf.tests ns hleft field hfield w hw scope
    · exact hs.tests ns hright field hfield w hw scope
  build ns hns missing scope := by
    obtain ⟨hnsf, hnss⟩ := hns.of_seq
    have hleft := hf.build ns hnsf missing scope
    have hright := hs.build ns hnss missing scope
    show (do let g ← f.build missing scope ns; return g (← s.build missing scope ns)) = .ok (g a)
    rw [hleft, hright]
    rfl

lemma makes_pure (a : α) : (pure a : Shape α).Makes members a where
  tests _ _ _ hf := by cases hf
  build _ _ _ _ := rfl

lemma Makes.map (g : α → β) (hs : s.Makes members a) : (g <$> s).Makes members (g a) :=
  (makes_pure g).seq hs

/-! ## All members -/

variable {test : Decoder Unit} {seen : List Text}

lemma check_cons_of_none (hlookup : s.fields.lookup name = none) :
    s.check scope seen ((name, v) :: ns) = s.check scope seen ns := by
  rw [check, hlookup]

lemma check_cons_of_some (hlookup : s.fields.lookup name = some test) (hnew : name ∉ seen) :
    s.check scope seen ((name, v) :: ns)
      = (test scope v >>= fun _ => s.check scope (name :: seen) ns) := by
  simp only [check, hlookup, if_neg hnew]

/-- A known member that passes is new and passes its test. -/
lemma check_cons_eq_ok (hlookup : s.fields.lookup name = some test)
    (h : s.check scope seen ((name, v) :: ns) = .ok ()) :
    name ∉ seen ∧ test scope v = .ok () ∧ s.check scope (name :: seen) ns = .ok () := by
  have hnew : name ∉ seen := by
    intro hmem
    simp only [check, hlookup, if_pos hmem] at h
    cases h
  rw [check_cons_of_some hlookup hnew] at h
  obtain ⟨_, htest, hrest⟩ := Results.bind_eq_ok h
  exact ⟨hnew, htest, hrest⟩

/-- Members pass the test when no known name comes twice and each known member passes its own. -/
lemma check_eq_ok (htests : ∀ f ∈ s.fields, ∀ v, (f.1, v) ∈ ns → f.2 scope v = .ok ())
    (hcount : ∀ name ∈ s.names, (ns.map (·.1)).count name ≤ 1)
    (hseen : ∀ name ∈ s.names, name ∈ seen → name ∉ ns.map (·.1)) :
    s.check scope seen ns = .ok () := by
  -- the known names that were seen stay apart from those that are still to come
  induction ns generalizing seen with
  | nil => rfl
  | cons n ns ih =>
    obtain ⟨name, v⟩ := n
    have htests' : ∀ f ∈ s.fields, ∀ v, (f.1, v) ∈ ns → f.2 scope v = .ok () :=
      fun f hf v hv => htests f hf v (List.mem_cons_of_mem _ hv)
    have hcount' : ∀ k ∈ s.names, (ns.map (·.1)).count k ≤ 1 := fun k hk =>
      (List.count_le_count_cons ..).trans (hcount k hk)
    cases hlookup : s.fields.lookup name with
    | none =>
      rw [check_cons_of_none hlookup]
      refine ih htests' hcount' fun k hk hmem hin => ?_
      exact hseen k hk hmem (List.mem_cons_of_mem _ hin)
    | some test =>
      have hfield : (name, test) ∈ s.fields := mem_of_lookup hlookup
      have hname : name ∈ s.names := List.mem_map_of_mem (f := (·.1)) hfield
      have hnew : name ∉ seen := fun hmem => hseen name hname hmem (List.mem_cons_self ..)
      have htest : test scope v = .ok () := htests _ hfield v (List.mem_cons_self ..)
      rw [check_cons_of_some hlookup hnew, htest, Results.ok_bind]
      refine ih htests' hcount' fun k hk hmem hin => ?_
      rcases List.mem_cons.1 hmem with rfl | hmem
      -- the name that was just seen would come a second time
      · have honce := hcount k hk
        rw [List.map_cons, List.count_cons_self] at honce
        have hpos := List.count_pos_iff.2 hin
        omega
      · exact hseen k hk hmem (List.mem_cons_of_mem _ hin)

/-- A record is made of members in which each known name comes at most once. -/
theorem ofMembers_eq_ok (hs : s.Makes members a) (hns : Finds s.names members ns)
    (hcount : ∀ name ∈ s.names, (ns.map (·.1)).count name ≤ 1) : s.ofMembers scope ns = .ok a := by
  have htests : ∀ f ∈ s.fields, ∀ v, (f.1, v) ∈ ns → f.2 scope v = .ok () := by
    intro f hf v hv
    have hname : f.1 ∈ s.names := List.mem_map_of_mem (f := (·.1)) hf
    exact hs.tests ns hns f hf v (lookup_of_count_le_one hv (hcount f.1 hname)) scope
  have hcheck : s.check scope [] ns = .ok () := check_eq_ok htests hcount (by simp)
  rw [ofMembers, hcheck, Results.ok_bind, hs.build ns hns]

/-- The members of a reordered object are found under the names they had. -/
lemma finds_of_reordered (hnodup : (members.map (·.1)).Nodup) {w : Json}
    (h : Reordered (.object members) w) : ∃ ns, w = .object ns ∧ (ns.map (·.1)).Nodup ∧
      ∀ names, Finds names members ns := by
  obtain ⟨ns, rfl, hnames, hlookup⟩ := Reordered.object hnodup h
  refine ⟨ns, rfl, hnames.nodup_iff.2 hnodup, fun names name _ => ?_⟩
  cases hname : members.lookup name with
  | none =>
    have hnone : ns.lookup name = .none := by
      refine lookup_eq_none_of_notMem fun hmem => ?_
      obtain ⟨m, hm, rfl⟩ := List.mem_map.1 (hnames.mem_iff.1 hmem)
      rw [lookup_of_nodup hnodup hm] at hname
      cases hname
    rw [hnone]
    exact .none
  | some v =>
    obtain ⟨w, hw, hvw⟩ := hlookup name v hname
    rw [hw]
    exact .some hvw

/-- A record that is made of members is decoded from the object of these members. -/
lemma Makes.accepts {record : Text} (hs : s.Makes members a) (hnodup : (members.map (·.1)).Nodup) :
    (s.decoder record).Accepts (.object members) a := by
  intro scope w hw
  obtain ⟨ns, rfl, hnodup', hfinds⟩ := finds_of_reordered hnodup hw
  exact ofMembers_eq_ok hs (hfinds _) fun name _ => List.nodup_iff_count_le_one.1 hnodup' name

end Shape
end RuleTemplate
