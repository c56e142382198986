import Mathlib.Data.List.Infix
import RuleTemplate.Node.Resolve
import RuleTemplate.Proofs.Event.RoundTrip

/-!
# Paths in parts

A path can be followed in parts (`Node.resolve_append`): what stands behind it is followed from the
node at its end, or is left over when the path breaks off. A path that ends at null breaks off there
with nothing left over, and null leads nowhere (`Node.child?_eq_none_of_isNull`), so all that stands
behind it is left over.

Nodes that no segment tells apart are walked alike (`Node.Bisimulation.resolve`).
-/

namespace RuleTemplate.Node

variable {m n : Node} {segment : Text} {path : List Text}

/-! ## One segment -/

lemma resolve_cons_of_some (h : n.child? segment = some m) (path : List Text) :
    n.resolve (segment :: path) = m.resolve path := by
  rw [resolve, h]

lemma resolve_cons_of_none (h : n.child? segment = none) (path : List Text) :
    n.resolve (segment :: path) = (none, segment :: path) := by
  rw [resolve, h]

/-- Null leads nowhere. -/
lemma child?_eq_none_of_isNull (h : n.isNull = true) (segment : Text) :
    n.child? segment = none := by
  cases n with
  | null => rfl
  | json v =>
    have hnone : v.child? segment = none := by
      unfold Json.Sorted.child?
      cases hv : v.json with
      | object members =>
        rw [isNull, Json.Sorted.isNull, hv] at h
        cases h
      | list items =>
        rw [isNull, Json.Sorted.isNull, hv] at h
        cases h
      | _ => rfl
    rw [child?, hnone]
    rfl
  | _ => cases h

/-- From null, nothing is found and all is left over. -/
lemma resolve_of_isNull (h : n.isNull = true) (path : List Text) :
    n.resolve path = (none, path) := by
  cases path with
  | nil => rw [resolve, if_pos h]
  | cons segment path => exact resolve_cons_of_none (child?_eq_none_of_isNull h segment) path

/-! ## A path behind another -/

/-- A path behind another is followed from the end of that, unless that breaks off. -/
theorem resolve_append (n : Node) (p q : List Text) :
    n.resolve (p ++ q) = match n.resolve p with
      | (some m, _) => m.resolve q
      | (none, rest) => (none, rest ++ q) := by
  induction p generalizing n with
  | nil =>
    rw [List.nil_append, resolve]
    cases hnull : n.isNull with
    | false => rfl
    | true => exact resolve_of_isNull hnull q
  | cons segment p ih =>
    rw [List.cons_append]
    cases hchild : n.child? segment with
    | none =>
      rw [resolve_cons_of_none hchild, resolve_cons_of_none hchild]
      rfl
    | some m => rw [resolve_cons_of_some hchild, resolve_cons_of_some hchild, ih]

/-- What is left over is the end of the path. -/
lemma resolve_suffix (n : Node) (p : List Text) : (n.resolve p).2 <:+ p := by
  induction p generalizing n with
  | nil => exact List.suffix_rfl
  | cons segment p ih =>
    cases hchild : n.child? segment with
    | none => rw [resolve_cons_of_none hchild]
    | some m =>
      rw [resolve_cons_of_some hchild]
      exact (ih m).trans (List.suffix_cons segment p)

/-- What is found is not null, and then nothing is left over. -/
lemma resolve_eq_some {p : List Text} (h : (n.resolve p).1 = some m) :
    (n.resolve p).2 = [] ∧ m.isNull = false := by
  induction p generalizing n with
  | nil =>
    rw [resolve] at h ⊢
    cases hnull : n.isNull with
    | true =>
      rw [hnull] at h
      cases h
    | false =>
      rw [hnull] at h
      cases h
      exact ⟨rfl, hnull⟩
  | cons segment p ih =>
    cases hchild : n.child? segment with
    | none =>
      rw [resolve_cons_of_none hchild] at h
      cases h
    | some k =>
      rw [resolve_cons_of_some hchild] at h ⊢
      exact ih h

/-- A path can be followed in two parts, from every node. When the first part leads to a node, the
second one is followed from there; when the first part breaks off, what is left of it stays in front
of the second. What is left over is the end of the path, and there is none when a node is found,
which is never null. -/
theorem resolve_in_parts (root : Node) (p q : List Text) :
    (∀ n, root.resolve p = (some n, []) → root.resolve (p ++ q) = n.resolve q) ∧
    (∀ rest, root.resolve p = (none, rest) → root.resolve (p ++ q) = (none, rest ++ q)) ∧
    (root.resolve p).2 <:+ p ∧
    ((root.resolve p).2 ≠ [] → (root.resolve p).1 = none) ∧
    ∀ n, (root.resolve p).1 = some n → n.isNull = false := by
  refine ⟨?_, ?_, root.resolve_suffix p, ?_, fun n hn => (resolve_eq_some hn).2⟩
  · intro n hn
    rw [resolve_append, hn]
  · intro rest hrest
    rw [resolve_append, hrest]
  · intro hrest
    cases hfound : (root.resolve p).1 with
    | none => rfl
    | some n => exact absurd (resolve_eq_some hfound).1 hrest

/-- A part that ends at an item of a list, one that ends at null, and one that breaks off. -/
theorem resolve_in_parts_sampleContent :
    (record (.event .sampleContent)).resolve (["Data", "price"] ++ ["iv", "0", "x"] : List Text)
      = (none, (["x"] : List Text)) ∧
    (record (.event .sampleContent)).resolve (["dataOld"] ++ ["price", "iv"] : List Text)
      = (none, (["price", "iv"] : List Text)) ∧
    (record (.event .sampleContent)).resolve (["data", "gone", "iv"] ++ ["0"] : List Text)
      = (none, (["gone", "iv", "0"] : List Text)) := by
  obtain ⟨hfield, -⟩ := resolve_in_parts (record (.event .sampleContent)) ["Data", "price"]
    ["iv", "0", "x"]
  obtain ⟨-, hnull, -⟩ := resolve_in_parts (record (.event .sampleContent)) ["dataOld"]
    ["price", "iv"]
  obtain ⟨-, hbroken, -⟩ := resolve_in_parts (record (.event .sampleContent)) ["data", "gone", "iv"]
    ["0"]
  exact ⟨(hfield _ rfl).trans rfl, hnull _ rfl, hbroken _ rfl⟩

/-! ## Nodes that are walked alike -/

/-- Two walks end alike: they leave over the same, and they find related nodes or none. -/
structure EndsAlike (R : Node → Node → Prop) (a b : Option Node × List Text) : Prop where
  rest : a.2 = b.2
  found : Option.Rel R a.1 b.1

/-- A relation that no segment leads out of. -/
structure Bisimulation (R : Node → Node → Prop) : Prop where
  isNull_eq {m n : Node} (h : R m n) : m.isNull = n.isNull
  child? {m n : Node} (h : R m n) (segment : Text) :
    Option.Rel R (m.child? segment) (n.child? segment)

variable {R S : Node → Node → Prop}

/-- Related nodes are walked alike. -/
theorem Bisimulation.resolve (hR : Bisimulation R) (h : R m n) (path : List Text) :
    EndsAlike R (m.resolve path) (n.resolve path) := by
  induction path generalizing m n with
  | nil =>
    rw [Node.resolve, Node.resolve, hR.isNull_eq h]
    cases n.isNull with
    | false => exact ⟨rfl, .some h⟩
    | true => exact ⟨rfl, .none⟩
  | cons segment path ih =>
    have hchild := hR.child? h segment
    rw [Node.resolve, Node.resolve]
    generalize m.child? segment = k? at hchild ⊢
    generalize n.child? segment = l? at hchild ⊢
    cases hchild with
    | some hkl => exact ih hkl
    | none => exact ⟨rfl, .none⟩

lemma EndsAlike.mono {a b : Option Node × List Text} (h : EndsAlike R a b)
    (hRS : ∀ m n, R m n → S m n) : EndsAlike S a b := by
  obtain ⟨m?, rest⟩ := a
  obtain ⟨n?, rest'⟩ := b
  obtain ⟨hrest, hfound⟩ := h
  refine ⟨hrest, ?_⟩
  cases hfound with
  | some hmn => exact .some (hRS _ _ hmn)
  | none => exact .none

end RuleTemplate.Node
