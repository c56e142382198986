import RuleTemplate.Proofs.Decode.Presence
import RuleTemplate.Proofs.Decode.Records

/-!
# Decoding without members

A decoder goes by what is said of missing members (`Decoder.Heeds`) if it

* decodes a value in the same way when members are left out that have their defaults, and
* fails with an error that names the member when one is left out that is required.

Records hand the law on from the values of their members (`Shape.Heeds.decoder`), and so do lists
and values that may be null. What a record does is shown name by name, along its shape.
-/

namespace RuleTemplate

open Json (Place behind withoutMembers withoutItems)
open Presence (OmitsDefaults)

/-! ## Decoders -/

namespace Decoder

variable {α : Type} {decode : Decoder α} {p : Presence}

/-- The decoder goes by what is said of missing members. -/
structure Heeds (decode : Decoder α) (p : Presence) : Prop where
  spares : ∀ scope v a, decode scope v = .ok a → ∀ gone, p.Allows gone v →
    decode scope (v.without gone) = .ok a
  demands : ∀ scope v a, decode scope v = .ok a → ∀ places name u,
    p.Required (places ++ [.member name]) → v.Contains (places ++ [.member name]) u →
    decode scope (v.without (· = places ++ [.member name])) = .error (.missingField name)

lemma heeds_silent (decode : Decoder α) : decode.Heeds .silent where
  spares scope v a h gone hgone := by rwa [hgone.without_eq_self]
  demands _ _ _ _ _ _ _ hrequired := hrequired.elim

variable {β : Type} {g : α → β} {b : β} {scope : Scope} {v : Json}

/-- What is made of the result goes by it as well. -/
lemma Heeds.spares_map (h : decode.Heeds p) (hv : (decode scope v).map g = .ok b)
    {gone : List Place → Bool} (hgone : p.Allows gone v) :
    (decode scope (v.without gone)).map g = .ok b := by
  cases ha : decode scope v with
  | error e => rw [ha] at hv; cases hv
  | ok a => rw [h.spares scope v a ha gone hgone, ← ha, hv]

lemma Heeds.demands_map (h : decode.Heeds p) (hv : (decode scope v).map g = .ok b)
    {places : List Place} {name : Text} {u : Json}
    (hrequired : p.Required (places ++ [.member name]))
    (hu : v.Contains (places ++ [.member name]) u) :
    (decode scope (v.without (· = places ++ [.member name]))).map g
      = .error (.missingField name) := by
  cases ha : decode scope v with
  | error e => rw [ha] at hv; cases hv
  | ok a => rw [h.demands scope v a ha places name u hrequired hu]; rfl

lemma Heeds.test (h : decode.Heeds p) : (Shape.test decode).Heeds p where
  spares _ _ _ hv _ hgone := h.spares_map hv hgone
  demands _ _ _ hv _ _ _ hrequired hu := h.demands_map hv hrequired hu

/-- A value that may be null goes by what is said of it when it is not. -/
lemma Heeds.nullable (h : decode.Heeds p) : (nullable decode).Heeds p where
  spares scope v a hv gone hgone := by
    cases hnull : v.isNull with
    | true =>
      obtain rfl := Json.isNull_iff.1 hnull
      exact hv
    | false =>
      rw [nullable_of_not_null hnull] at hv
      rw [nullable_of_not_null (Json.isNull_without.trans hnull)]
      exact h.spares_map hv hgone
  demands scope v a hv places name u hrequired hu := by
    cases hnull : v.isNull with
    | true =>
      -- nothing is inside null
      obtain rfl := Json.isNull_iff.1 hnull
      cases places <;> cases hu with | inside hpart => cases hpart
    | false =>
      rw [nullable_of_not_null hnull] at hv
      rw [nullable_of_not_null (Json.isNull_without.trans hnull)]
      exact h.demands_map hv hrequired hu

lemma mapM_withoutItems {decode : Json → Except DecodeError α} {gone : List Place → Bool}
    {first : Nat} {items : List Json} (h : ∀ (i : Nat) v, items[i]? = some v →
      decode (v.without (behind gone (.item (first + i)))) = decode v) :
    (withoutItems gone first items).mapM decode = items.mapM decode := by
  induction items generalizing first with
  | nil => rfl
  | cons v items ih =>
    have hrest : (withoutItems gone (first + 1) items).mapM decode = items.mapM decode := by
      refine ih fun i w hw => ?_
      rw [Nat.add_right_comm]
      exact h (i + 1) w hw
    have hhead : decode (v.without (behind gone (.item first))) = decode v := h 0 v rfl
    rw [withoutItems, Results.mapM_cons_eq, Results.mapM_cons_eq, hrest, hhead]

/-- A list goes by what is said of its items. -/
lemma Heeds.list (h : decode.Heeds p) : (list decode).Heeds p.items where
  spares scope v as hv gone hgone := by
    cases v with
    | list items =>
      have hitem : ∀ (i : Nat) v, items[i]? = some v →
          decode scope (v.without (behind gone (.item (0 + i)))) = decode scope v := by
        intro i v hi
        obtain ⟨b, hb⟩ := Results.exists_of_mapM_eq_ok hv v (List.mem_of_getElem? hi)
        rw [Nat.zero_add, hb]
        exact h.spares scope v b hb _ fun places u hplace hu =>
          hgone _ u hplace (.inside (.item hi) hu)
      exact (mapM_withoutItems hitem).trans hv
    | _ => cases hv
  demands scope v as hv places name u hrequired hu := by
    obtain _ | ⟨_ | i, places⟩ := places
    · exact hrequired.elim
    · exact hrequired.elim
    cases v with
    | list items =>
      obtain ⟨_, v, hi, ⟨⟩, hv'⟩ := Json.contains_list_cons.1 hu
      have hdecoded : ∀ w ∈ items, ∃ b, decode scope w = .ok b := Results.exists_of_mapM_eq_ok hv
      obtain ⟨b, hb⟩ := hdecoded v (List.mem_of_getElem? hi)
      refine Results.mapM_eq_error_of_first (i := i) ?_
        (h.demands scope v b hb places name u hrequired hv') fun j hj w hw => ?_
      · show (withoutItems _ 0 items)[i]? = _
        rw [Json.getElem?_withoutItems, hi, Nat.zero_add]
        exact congrArg (fun gone => some (v.without gone)) Json.behind_self
      · -- the items before it are as they were
        rw [Json.getElem?_withoutItems, Nat.zero_add] at hw
        obtain ⟨w', hw', rfl⟩ := Option.map_eq_some_iff.1 hw
        have hne : Place.item j ≠ .item i := fun heq => hj.ne (Place.item.inj heq)
        rw [List.cons_append, Json.behind_of_ne hne, Json.without_none]
        exact hdecoded w' (List.mem_of_getElem? hw')
    | _ => cases hv

end Decoder

/-! ## Records -/

namespace Shape

variable {α β : Type} {s : Shape α} {name : Text} {decode : Decoder α} {scope : Scope}
  {defaults : List (Text × Json)} {inner : Text → Presence} {members : Json.Members}
  {gone : List Place → Bool} {seen seen' : List Text} {a : α} {v : Json}

/-- The record goes by what is said of its missing members and of their values. -/
structure Heeds (s : Shape α) (defaults : List (Text × Json)) (inner : Text → Presence) :
    Prop where
  tests : ∀ f ∈ s.fields, f.2.Heeds (inner f.1)
  spares : ∀ missing scope members a, s.build missing scope members = .ok a →
    ∀ gone, OmitsDefaults defaults inner s.names gone members →
    s.build missing scope (withoutMembers gone members) = .ok a
  demands : ∀ missing scope members a, s.build missing scope members = .ok a →
    ∀ name ∈ s.names, defaults.lookup name = none →
    s.build missing scope (withoutMembers (· = [.member name]) members) = .error (missing name)

/-- What stands under a name that is not gone is decoded as before. -/
lemma decode_kept (h : decode.Heeds (inner name))
    (hgone : OmitsDefaults defaults inner [name] gone members)
    (hv : members.lookup name = some v) (ha : decode scope v = .ok a)
    (hkept : gone [.member name] = false) :
    decode scope (v.without (behind gone (.member name))) = .ok a :=
  h.spares scope v a ha _
    (hgone.kept (name, v) (mem_of_lookup hv) (List.mem_singleton.2 rfl) hkept)

lemma heeds_required (h : decode.Heeds (inner name))
    (hname : defaults.lookup name = none := by rfl) :
    (required name decode).Heeds defaults inner where
  tests f hf := by
    obtain rfl := List.mem_singleton.1 hf
    exact h.test
  spares missing scope members a ha gone hgone := by
    simp only [required, Json.lookup_withoutMembers] at ha ⊢
    cases hv : members.lookup name with
    | none => rw [hv] at ha; cases ha
    | some v =>
      rw [hv] at ha
      have hkept : gone [.member name] = false := by
        refine Bool.eq_false_iff.2 fun htrue => ?_
        have hdefault := hgone.omitted _ (mem_of_lookup hv) (List.mem_singleton.2 rfl) htrue
        rw [hname] at hdefault
        cases hdefault
      rw [if_neg (Bool.eq_false_iff.1 hkept)]
      exact decode_kept h hgone hv ha hkept
  demands missing scope members a _ other hother _ := by
    obtain rfl := List.mem_singleton.1 hother
    simp [required, Json.lookup_withoutMembers]

lemma heeds_optional {default : α} (h : decode.Heeds (inner name)) (hv : decode.Accepts v default)
    (hname : defaults.lookup name = some v := by rfl) :
    (optional name decode default).Heeds defaults inner where
  tests f hf := by
    obtain rfl := List.mem_singleton.1 hf
    exact h.test
  spares missing scope members a ha gone hgone := by
    simp only [optional, Json.lookup_withoutMembers] at ha ⊢
    cases hlookup : members.lookup name with
    | none =>
      rw [hlookup] at ha
      rw [Option.map_none, ite_self]
      exact ha
    | some w =>
      rw [hlookup] at ha
      cases hkept : gone [.member name] with
      | true =>
        -- the value is the default, so it is decoded as what is there without it
        have hdefault := hgone.omitted _ (mem_of_lookup hlookup) (List.mem_singleton.2 rfl) hkept
        obtain rfl : v = w := Option.some.inj (hname.symm.trans hdefault)
        exact (hv scope v (.refl v)).symm.trans ha
      | false => exact decode_kept h hgone hlookup ha hkept
  demands missing scope members a _ other hother hnone := by
    obtain rfl := List.mem_singleton.1 hother
    rw [hname] at hnone
    cases hnone

lemma Heeds.seq {f : Shape (α → β)} (hf : f.Heeds defaults inner) (hs : s.Heeds defaults inner) :
    (f <*> s).Heeds defaults inner where
  tests field hfield := by
    rcases List.mem_append.1 hfield with hfield | hfield
    · exact hf.tests field hfield
    · exact hs.tests field hfield
  spares missing scope members b hb gone hgone := by
    have hnames : (f <*> s).names = f.names ++ s.names := List.map_append
    have hleft : OmitsDefaults defaults inner f.names gone members :=
      hgone.mono fun name hname => hnames ▸ List.mem_append_left _ hname
    have hright : OmitsDefaults defaults inner s.names gone members :=
      hgone.mono fun name hname => hnames ▸ List.mem_append_right _ hname
    obtain ⟨g, hg, hb⟩ := Results.bind_eq_ok hb
    obtain ⟨a, ha, hb⟩ := Results.bind_eq_ok hb
    cases hb
    show (do let g ← f.build missing scope _; return g (← s.build missing scope _)) = .ok (g a)
    rw [hf.spares missing scope members g hg gone hleft,
      hs.spares missing scope members a ha gone hright]
    rfl
  demands missing scope members b hb name hname hnone := by
    obtain ⟨g, hg, hb⟩ := Results.bind_eq_ok hb
    obtain ⟨a, ha, hb⟩ := Results.bind_eq_ok hb
    show (do let g ← f.build missing scope _; return g (← s.build missing scope _)) = _
    by_cases hleft : name ∈ f.names
    · rw [hf.demands missing scope members g hg name hleft hnone]
      rfl
    · -- what comes before in the order of declaration is all there
      have hright : name ∈ s.names := by
        have hnames : (f <*> s).names = f.names ++ s.names := List.map_append
        rw [hnames] at hname
        exact (List.mem_append.1 hname).resolve_left hleft
      rw [hf.spares missing scope members g hg _ (Presence.omitsDefaults_of_notMem hleft),
        hs.demands missing scope members a ha name hright hnone]
      rfl

lemma heeds_pure (a : α) : (pure a : Shape α).Heeds defaults inner where
  tests _ hf := by cases hf
  spares _ _ _ _ ha _ _ := ha
  demands _ _ _ _ _ _ hname := by cases hname

lemma Heeds.map (g : α → β) (hs : s.Heeds defaults inner) : (g <$> s).Heeds defaults inner :=
  (heeds_pure g).seq hs

/-! ## All members -/

/-- A known name that came already does not come again. -/
lemma notMem_of_check {test : Decoder Unit} (h : s.check scope seen members = .ok ())
    (hlookup : s.fields.lookup name = some test) (hseen : name ∈ seen) : (name, v) ∉ members := by
  induction members generalizing seen with
  | nil => exact List.not_mem_nil
  | cons m members ih =>
    obtain ⟨other, w⟩ := m
    intro hmem
    rcases List.mem_cons.1 hmem with hhead | htail
    · cases hhead
      exact (check_cons_eq_ok hlookup h).1 hseen
    · cases hother : s.fields.lookup other with
      | none =>
        rw [check_cons_of_none hother] at h
        exact ih h hseen htail
      | some test' =>
        obtain ⟨-, -, hrest⟩ := check_cons_eq_ok hother h
        exact ih hrest (List.mem_cons_of_mem _ hseen) htail

/-- Members that pass the test pass it also when some are left out, if the others can still be
decoded. -/
lemma Heeds.check_without (hs : s.Heeds defaults inner)
    (hkept : ∀ m ∈ members, m.1 ∈ s.names → gone [.member m.1] = false →
      (inner m.1).Allows (behind gone (.member m.1)) m.2)
    (hseen : seen' ⊆ seen) (h : s.check scope seen members = .ok ()) :
    s.check scope seen' (withoutMembers gone members) = .ok () := by
  induction members generalizing seen seen' with
  | nil => rfl
  | cons m members ih =>
    obtain ⟨name, v⟩ := m
    obtain ⟨hvalue, hkept⟩ := List.forall_mem_cons.1 hkept
    cases hlookup : s.fields.lookup name with
    | none =>
      rw [check_cons_of_none hlookup] at h
      cases hgone : gone [.member name] with
      | true =>
        rw [Json.withoutMembers_cons_of_gone hgone]
        exact ih hkept hseen h
      | false =>
        rw [Json.withoutMembers_cons_of_kept hgone, check_cons_of_none hlookup]
        exact ih hkept hseen h
    | some test =>
      obtain ⟨hnew, htest, hrest⟩ := check_cons_eq_ok hlookup h
      cases hgone : gone [.member name] with
      | true =>
        rw [Json.withoutMembers_cons_of_gone hgone]
        exact ih hkept (List.subset_cons_of_subset name hseen) hrest
      | false =>
        have hfield : (name, test) ∈ s.fields := mem_of_lookup hlookup
        have hmem : name ∈ s.names := List.mem_map_of_mem (f := (·.1)) hfield
        have htest' : test scope (v.without (behind gone (.member name))) = .ok () :=
          (hs.tests _ hfield).spares scope v () htest _ (hvalue hmem hgone)
        have hnew' : name ∉ seen' := fun hmem => hnew (hseen hmem)
        rw [Json.withoutMembers_cons_of_kept hgone, check_cons_of_some hlookup hnew', htest',
          Results.ok_bind]
        exact ih hkept (List.cons_subset_cons name hseen) hrest

/-- When something is gone from one member only, the test of that member decides. -/
lemma check_eq_error {test : Decoder Unit} {places : List Place} {error : DecodeError}
    (hmem : (name, v) ∈ members) (hlookup : s.fields.lookup name = some test)
    (hplaces : places ≠ [])
    (htest : test scope v = .ok () → test scope (v.without (· = places)) = .error error)
    (h : s.check scope seen members = .ok ()) :
    s.check scope seen (withoutMembers (· = .member name :: places) members) = .error error := by
  induction members generalizing seen with
  | nil => cases hmem
  | cons m members ih =>
    obtain ⟨other, w⟩ := m
    have hkept : decide ([.member other] = .member name :: places) = false := by
      simpa using fun _ => hplaces.symm
    rw [Json.withoutMembers_cons_of_kept hkept]
    by_cases heq : other = name
    · subst heq
      obtain ⟨hnew, hw, hrest⟩ := check_cons_eq_ok hlookup h
      obtain rfl : v = w := by
        rcases List.mem_cons.1 hmem with hhead | htail
        · exact (Prod.mk.inj hhead).2
        · exact absurd htail (notMem_of_check hrest hlookup (List.mem_cons_self ..))
      rw [Json.behind_self, check_cons_of_some hlookup hnew, htest hw]
      rfl
    · have htail : (name, v) ∈ members := by
        refine (List.mem_cons.1 hmem).resolve_left fun hhead => ?_
        exact heq (Prod.mk.inj hhead).1.symm
      have hne : Place.member other ≠ .member name := fun h => heq (Place.member.inj h)
      rw [Json.behind_of_ne hne, Json.without_none]
      cases hother : s.fields.lookup other with
      | none =>
        rw [check_cons_of_none hother] at h ⊢
        exact ih htail h
      | some test' =>
        obtain ⟨hnew, hw, hrest⟩ := check_cons_eq_ok hother h
        rw [check_cons_of_some hother hnew, hw]
        exact ih htail hrest

/-- A record is made also of its members without their defaults. -/
lemma Heeds.ofMembers_without (hs : s.Heeds defaults inner)
    (hgone : OmitsDefaults defaults inner s.names gone members)
    (h : s.ofMembers scope members = .ok a) :
    s.ofMembers scope (withoutMembers gone members) = .ok a := by
  obtain ⟨⟨⟩, hcheck, hbuild⟩ := Results.bind_eq_ok h
  rw [ofMembers, hs.check_without hgone.kept (List.Subset.refl _) hcheck, Results.ok_bind,
    hs.spares _ scope members a hbuild gone hgone]

/-- No record is made of members of which a required one is missing, or something that is required
in the value of one. -/
lemma Heeds.ofMembers_eq_error (hs : s.Heeds defaults inner) {places : List Place} {u : Json}
    (hrequired : (Presence.record s.names defaults inner).Required (places ++ [.member name]))
    (hu : (Json.object members).Contains (places ++ [.member name]) u)
    (h : s.ofMembers scope members = .ok a) :
    s.ofMembers scope (withoutMembers (· = places ++ [.member name]) members)
      = .error (.missingField name) := by
  obtain ⟨⟨⟩, hcheck, hbuild⟩ := Results.bind_eq_ok h
  obtain _ | ⟨field | i, places⟩ := places
  · -- the other members pass the test, and then this one is missed
    have hkept : ∀ m ∈ members, m.1 ∈ s.names →
        decide ([Place.member m.1] = [] ++ [.member name]) = false →
        (inner m.1).Allows (behind (· = [] ++ [.member name]) (.member m.1)) m.2 := by
      intro m _ _ hne
      have hother : Place.member m.1 ≠ .member name := by simpa using hne
      rw [List.nil_append, Json.behind_of_ne hother]
      exact Presence.allows_none _ _
    rw [ofMembers, hs.check_without hkept (List.Subset.refl _) hcheck, Results.ok_bind]
    exact hs.demands _ scope members a hbuild name hrequired.1 hrequired.2
  · -- the value of this member does not pass the test
    obtain ⟨hfield, hinner⟩ := Presence.record_required_append.1 hrequired
    obtain ⟨⟨other, v⟩, hmem, hplace, hv⟩ := Json.contains_object_cons.1 hu
    obtain rfl : field = other := Place.member.inj hplace
    obtain ⟨test, hlookup⟩ := exists_lookup_of_mem hfield
    have hheeds : test.Heeds (inner field) := hs.tests _ (mem_of_lookup hlookup)
    have htest : test scope v = .ok () →
        test scope (v.without (· = places ++ [.member name])) = .error (.missingField name) :=
      fun hok => hheeds.demands scope v () hok places name u hinner hv
    have herror := check_eq_error hmem hlookup (by simp) htest hcheck
    rw [ofMembers, List.cons_append, herror]
    rfl
  · exact hrequired.elim

/-- A record that is written as an object goes by what is said of its members; in one that is
written as a list nothing can be missing. -/
theorem Heeds.decoder (hs : s.Heeds defaults inner) (record : Text) :
    (s.decoder record).Heeds (.record s.names defaults inner) where
  spares scope v a ha gone hgone := by
    cases v with
    | object members => exact hs.ofMembers_without (hgone.omitsDefaults fun _ hm => hm) ha
    | list items =>
      have hself : (Json.list items).without gone = .list items := by
        refine Json.without_eq_self fun places u hplace hu => ?_
        have hdefault := hgone places u hplace hu
        cases hu with
        | here => cases hdefault
        | inside hpart hrest =>
          cases hpart
          cases hdefault
      rwa [hself]
    | _ => cases ha
  demands scope v a ha places name u hrequired hu := by
    cases v with
    | object members => exact hs.ofMembers_eq_error hrequired hu ha
    | list items =>
      obtain _ | ⟨place, places⟩ := places
      · cases hu with | inside hpart => cases hpart
      · obtain ⟨i, -, -, rfl, -⟩ := Json.contains_list_cons.1 hu
        exact hrequired.elim
    | _ => cases ha

end Shape
end RuleTemplate
