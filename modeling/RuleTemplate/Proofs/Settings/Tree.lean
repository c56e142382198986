import Mathlib.Data.List.Nodup
import Mathlib.Logic.Function.Basic
import Mathlib.Tactic.Lemma
import RuleTemplate.Settings.Tree

/-!
# Settings in a tree

There are three settings, in two groups, and a source may assign to each of them by its whole key or
within an object for its group (`Assigns`). A tree that holds a value for every setting holds one
after a source is laid over it, too: the values that the source assigns, and those that were there
for all other settings (`Holds.overlay`). What is read off such a tree depends on the value of each
setting alone (`Holds.ofTree?_eq_some_iff`).
-/

namespace RuleTemplate.Settings

/-- The groups of settings. -/
inductive Group where
  | urls | logging
deriving DecidableEq, Repr

/-- The name of a group. -/
def Group.name : Group → Text
  | .urls => "urls"
  | .logging => "logging"

/-- The settings. -/
inductive Key where
  | baseUrl | level | format
deriving DecidableEq, Repr

namespace Key

/-- The group to which a setting belongs. -/
def group : Key → Group
  | .baseUrl => .urls
  | .level | .format => .logging

/-- The name of a setting in its group. -/
def name : Key → Text
  | .baseUrl => "base_url"
  | .level => "level"
  | .format => "format"

/-- The whole key of a setting. -/
def path (k : Key) : Text := k.group.name ++ '.' :: k.name

/-- The value of a setting when nothing else is said. -/
def standard : Key → Json
  | .baseUrl => .string Settings.standard.urls.baseUrl
  | .level => .string Settings.standard.logging.level
  | .format => .string Settings.standard.logging.format.name

end Key

/-- Whether a value is a text, a number or a truth value. -/
def IsScalar : Json → Prop
  | .string _ | .number _ | .bool _ => True
  | .null | .list _ | .object _ => False

instance : DecidablePred IsScalar
  | .string _ | .number _ | .bool _ => isTrue trivial
  | .null | .list _ | .object _ => isFalse id

/-- What a source assigns to settings, in order: values under whole keys, and the members of objects
for groups. It assigns nothing else. -/
inductive Assigns : Source → List (Key × Json) → Prop where
  | nil : Assigns [] []
  | key {s : Source} {as : List (Key × Json)} (k : Key) {v : Json} (hv : IsScalar v)
      (hs : Assigns s as) : Assigns ((k.path, v) :: s) ((k, v) :: as)
  | group {s : Source} {as : List (Key × Json)} (g : Group) {inner : List (Key × Json)}
      (hinner : ∀ a ∈ inner, a.1.group = g ∧ IsScalar a.2) (hs : Assigns s as) :
      Assigns ((g.name, .object (inner.map fun a => (a.1.name, a.2))) :: s) (inner ++ as)

/-- Values after assignments, of which the last to each setting counts. -/
def assigned (val : Key → Json) (as : List (Key × Json)) : Key → Json :=
  as.foldl (fun val a => Function.update val a.1 a.2) val

variable {tree b v : Json} {val val' : Key → Json} {k : Key} {g : Group} {s : Source}
  {as inner : List (Key × Json)}

lemma assigned_append (val : Key → Json) (as as' : List (Key × Json)) :
    assigned val (as ++ as') = assigned (assigned val as) as' := List.foldl_append

lemma assigned_of_notMem (h : k ∉ as.map (·.1)) : assigned val as k = val k := by
  induction as generalizing val with
  | nil => rfl
  | cons a as ih =>
    rw [List.map_cons, List.mem_cons, not_or] at h
    rw [assigned, List.foldl_cons, ← assigned, ih h.2, Function.update_of_ne h.1]

/-- When no setting comes twice, each has the value assigned to it, or keeps its own. -/
lemma assigned_eq (h : (as.map (·.1)).Nodup) (val : Key → Json) (k : Key) :
    assigned val as k = (as.lookup k).getD (val k) := by
  induction as generalizing val with
  | nil => rfl
  | cons a as ih =>
    obtain ⟨l, v⟩ := a
    rw [List.map_cons, List.nodup_cons] at h
    have hcons : assigned val ((l, v) :: as) = assigned (Function.update val l v) as := rfl
    by_cases hk : k = l
    · rw [hcons, hk, assigned_of_notMem h.1, Function.update_self, List.lookup_cons_self]
      rfl
    · rw [hcons, ih h.2, Function.update_of_ne hk, List.lookup_cons, beq_false_of_ne hk]

/-! ## Names -/

@[simp] lemma Group.lower_name (g : Group) : Text.lower g.name = g.name := by cases g <;> decide

@[simp] lemma Key.lower_name (k : Key) : Text.lower k.name = k.name := by cases k <;> decide

lemma Group.name_ne {g' : Group} (h : g' ≠ g) : g'.name ≠ g.name := by
  revert h
  cases g <;> cases g' <;> decide

lemma Key.name_ne {k' : Key} (hg : k'.group = k.group) (h : k' ≠ k) : k'.name ≠ k.name := by
  revert hg h
  cases k <;> cases k' <;> decide

lemma keyPath_path (k : Key) : keyPath k.path = [.member k.group.name, .member k.name] := by
  cases k <;> decide +kernel

lemma keyPath_name (g : Group) : keyPath g.name = [.member g.name] := by
  cases g <;> decide +kernel

/-! ## Assigning -/

/-- An object holds the values of the settings of a group. -/
def GroupHolds (g : Group) (b : Json) (val : Key → Json) : Prop :=
  ∃ members, b = .object members ∧
    ∀ k : Key, k.group = g → members.lookup k.name = some (val k) ∧ IsScalar (val k)

/-- A tree holds the values of all settings. -/
def Holds (tree : Json) (val : Key → Json) : Prop :=
  ∃ members, tree = .object members ∧
    ∀ g : Group, ∃ b, members.lookup g.name = some b ∧ GroupHolds g b val

lemma assign_of_isScalar (hv : IsScalar v) (tree : Json) (name : Text) :
    assign tree name v = withBranch tree name v := by
  cases v <;> first | rfl | cases hv

lemma GroupHolds.assign (h : GroupHolds k.group b val) (hv : IsScalar v) :
    GroupHolds k.group (assign b k.name v) (Function.update val k v) := by
  obtain ⟨members, rfl, hmembers⟩ := h
  rw [assign_of_isScalar hv, withBranch, Key.lower_name]
  refine ⟨_, rfl, fun k' hk' => ?_⟩
  by_cases heq : k' = k
  · rw [heq, lookup_put_self, Function.update_self]
    exact ⟨rfl, hv⟩
  · rw [lookup_put_of_ne _ _ (Key.name_ne hk' heq), Function.update_of_ne heq]
    exact hmembers k' hk'

lemma GroupHolds.assignAll (h : GroupHolds g b val)
    (hinner : ∀ a ∈ inner, a.1.group = g ∧ IsScalar a.2) :
    GroupHolds g (assignAll b (inner.map fun a => (a.1.name, a.2))) (assigned val inner) := by
  induction inner generalizing b val with
  | nil => exact h
  | cons a inner ih =>
    obtain ⟨⟨rfl, hv⟩, hrest⟩ := List.forall_mem_cons.1 hinner
    exact ih (h.assign hv) hrest

/-- When a group is replaced, the settings of the other group keep their values. -/
lemma Holds.withBranch (h : Holds tree val) (hb : GroupHolds g b val')
    (hother : ∀ k : Key, k.group ≠ g → val' k = val k) :
    Holds (withBranch tree g.name b) val' := by
  obtain ⟨members, rfl, hmembers⟩ := h
  rw [Settings.withBranch, Group.lower_name]
  refine ⟨_, rfl, fun g' => ?_⟩
  by_cases heq : g' = g
  · exact ⟨b, by rw [heq]; exact lookup_put_self .., heq ▸ hb⟩
  · obtain ⟨b', hb', members', rfl, hvalues⟩ := hmembers g'
    refine ⟨_, (lookup_put_of_ne _ _ (Group.name_ne heq)).trans hb', members', rfl, fun k hk => ?_⟩
    rw [hother k (hk ▸ heq)]
    exact hvalues k hk

lemma Holds.exists_branch (h : Holds tree val) (g : Group) :
    ∃ b, (branches tree).lookup (Text.lower g.name) = some b ∧ GroupHolds g b val := by
  obtain ⟨members, rfl, hmembers⟩ := h
  rw [Group.lower_name]
  exact hmembers g

/-- A source that is laid over a tree changes the settings to which it assigns, and no others. -/
lemma Holds.overlay (h : Holds tree val) (hs : Assigns s as) :
    Holds (overlay tree s) (assigned val as) := by
  induction hs generalizing tree val with
  | nil => exact h
  | @key s as k v hv hs ih =>
    obtain ⟨b, hbranch, hb⟩ := h.exists_branch k.group
    have hstep : assignAt tree v (keyPath k.path)
        = Settings.withBranch tree k.group.name (Settings.assign b k.name v) := by
      have htwo : assignAt tree v [.member k.group.name, .member k.name]
          = Settings.withBranch tree k.group.name
            (Settings.assign (branch tree k.group.name) k.name v) := rfl
      rw [keyPath_path, htwo, branch, hbranch]
      rfl
    have hother : ∀ l : Key, l.group ≠ k.group → Function.update val k v l = val l :=
      fun l hl => Function.update_of_ne (by rintro rfl; exact hl rfl) ..
    refine ih (?_ : Holds (assignAt tree v (keyPath k.path)) (Function.update val k v))
    rw [hstep]
    exact h.withBranch (hb.assign hv) hother
  | @group s as g inner hinner hs ih =>
    obtain ⟨b, hbranch, hb⟩ := h.exists_branch g
    have hstep : assignAt tree (.object (inner.map fun a => (a.1.name, a.2))) (keyPath g.name)
        = Settings.withBranch tree g.name
          (Settings.assignAll b (inner.map fun a => (a.1.name, a.2))) := by
      rw [keyPath_name, assignAt, Settings.assign, hbranch]
      rfl
    have hother : ∀ l : Key, l.group ≠ g → assigned val inner l = val l := by
      intro l hl
      refine assigned_of_notMem fun hmem => ?_
      obtain ⟨a, ha, rfl⟩ := List.mem_map.1 hmem
      exact hl (hinner a ha).1
    rw [assigned_append]
    refine ih (?_ : Holds (assignAt tree _ (keyPath g.name)) (assigned val inner))
    rw [hstep]
    exact h.withBranch (hb.assignAll hinner) hother

lemma Holds.isScalar (h : Holds tree val) (k : Key) : IsScalar (val k) := by
  obtain ⟨_, -, _, -, hvalues⟩ := h.exists_branch k.group
  exact (hvalues k rfl).2

/-! ## Layers -/

/-- What a source gives for each setting, if anything. -/
abbrev Layer := Key → Option Json

/-- A source gives a layer when it assigns nothing else, and to no setting twice. -/
def Gives (s : Source) (layer : Layer) : Prop :=
  ∃ as, Assigns s as ∧ (as.map (·.1)).Nodup ∧ ∀ k, as.lookup k = layer k

lemma Holds.overlay_layer {layer : Layer} (h : Holds tree val) (hs : Gives s layer) :
    Holds (Settings.overlay tree s) fun k => (layer k).getD (val k) := by
  obtain ⟨as, has, hnodup, hlayer⟩ := hs
  have hval : (fun k => (layer k).getD (val k)) = assigned val as := by
    funext k
    rw [assigned_eq hnodup, hlayer]
  rw [hval]
  exact h.overlay has

/-! ## Reading -/

/-- The value of each setting is acceptable for it, and settings have what it stands for. -/
structure Reads (val : Key → Json) (s : Settings) : Prop where
  baseUrl : text? (val .baseUrl) = some s.urls.baseUrl
  level : text? (val .level) = some s.logging.level
  format : format? (val .format) = some s.logging.format

/-- A setting as a text. -/
def Key.read (k : Key) (s : Settings) : Text :=
  match k with
  | .baseUrl => s.urls.baseUrl
  | .level => s.logging.level
  | .format => s.logging.format.name

/-- What a setting is depends on its own value. -/
lemma Reads.read_eq {s s' : Settings} (h : Reads val s) (h' : Reads val' s') (hk : val k = val' k) :
    k.read s = k.read s' := by
  cases k with
  | baseUrl => exact Option.some.inj (h.baseUrl.symm.trans (hk ▸ h'.baseUrl))
  | level => exact Option.some.inj (h.level.symm.trans (hk ▸ h'.level))
  | format => exact congrArg LogFormat.name (Option.some.inj (h.format.symm.trans (hk ▸ h'.format)))

/-- The settings in a tree are those that its values stand for. -/
lemma Holds.ofTree?_eq_some_iff (h : Holds tree val) {s : Settings} :
    ofTree? tree = some s ↔ Reads val s := by
  obtain ⟨members, rfl, hmembers⟩ := h
  obtain ⟨_, hurls, urls, rfl, hurl⟩ := hmembers .urls
  obtain ⟨_, hlogging, logging, rfl, hlog⟩ := hmembers .logging
  have hurls : members.lookup ("urls" : Text) = _ := hurls
  have hlogging : members.lookup ("logging" : Text) = _ := hlogging
  have hbaseUrl : urls.lookup ("base_url" : Text) = _ := (hurl .baseUrl rfl).1
  have hlevel : logging.lookup ("level" : Text) = _ := (hlog .level rfl).1
  have hformat : logging.lookup ("format" : Text) = _ := (hlog .format rfl).1
  obtain ⟨⟨b⟩, l, f⟩ := s
  simp only [ofTree?, part?, hurls, hlogging, Option.elim_some, urls?, logging?, hbaseUrl, hlevel,
    hformat]
  constructor
  · intro hread
    cases hb : text? (val .baseUrl) <;> cases hl : text? (val .level) <;>
      cases hf : format? (val .format) <;> rw [hb, hl, hf] at hread <;> cases hread
    exact ⟨hb, hl, hf⟩
  · rintro ⟨hb, hl, hf⟩
    rw [hb, hl, hf]
    rfl

/-- A text, a number and a truth value do for a text. -/
lemma exists_text?_of_isScalar (hv : IsScalar v) : ∃ t, text? v = some t := by
  cases v with
  | string t => exact ⟨t, rfl⟩
  | number n => exact ⟨numberText n, rfl⟩
  | bool b => cases b <;> exact ⟨_, rfl⟩
  | null => cases hv
  | list items => cases hv
  | object members => cases hv

end RuleTemplate.Settings
