import RuleTemplate.Text.Basic

/-!
# Maps from text, in key order

`KeyMap α` is a finite map from text, held as its entries in strictly increasing order of the keys.
Keys are ordered by their characters, which is also the order of their UTF-8 bytes. So two maps are
equal when they have the same entries, and listing a map needs no sorting.
-/

namespace RuleTemplate

/-- Entries in strictly increasing order of their keys. -/
def Ascending {α : Type} (entries : List (Text × α)) : Prop :=
  entries.Pairwise fun a b => Text.before a.1 b.1 = true

/-- Whether entries are in order can be decided. -/
instance {α : Type} (entries : List (Text × α)) : Decidable (Ascending entries) :=
  inferInstanceAs (Decidable (entries.Pairwise _))

/-- Writes `value` under `key`, in place of what was there. -/
def put {α : Type} (key : Text) (value : α) : List (Text × α) → List (Text × α)
  | [] => [(key, value)]
  | (k, v) :: rest =>
    if Text.before key k then (key, value) :: (k, v) :: rest
    else if key = k then (key, value) :: rest
    else (k, v) :: put key value rest

/-- Every entry after writing is the written one or was there before. -/
theorem mem_put {α : Type} {key : Text} {value : α} {entries : List (Text × α)} {e : Text × α}
    (h : e ∈ put key value entries) : e = (key, value) ∨ e ∈ entries := by
  induction entries with
  | nil => simpa [put] using h
  | cons head rest ih =>
    rw [put] at h
    split at h
    · simpa using h
    · split at h
      · rcases List.mem_cons.1 h with rfl | h <;> simp_all
      · rcases List.mem_cons.1 h with rfl | h
        · simp
        · rcases ih h with rfl | h <;> simp_all

/-- Writing keeps the keys in order. -/
theorem ascending_put {α : Type} {key : Text} {value : α} {entries : List (Text × α)}
    (h : Ascending entries) : Ascending (put key value entries) := by
  induction entries with
  | nil => simp [put, Ascending]
  | cons head rest ih =>
    obtain ⟨k, v⟩ := head
    have hr := List.pairwise_cons.1 h
    rw [put]
    split
    · next hlt =>
      refine List.pairwise_cons.2 ⟨fun e he => ?_, h⟩
      rcases List.mem_cons.1 he with rfl | he
      · exact hlt
      · exact Text.before_trans hlt (hr.1 e he)
    · split
      · next heq => subst heq; exact List.pairwise_cons.2 ⟨hr.1, hr.2⟩
      · next hlt hne =>
        have hgt : Text.before k key = true :=
          Text.before_of_not_before hne (Bool.eq_false_iff.2 hlt)
        refine List.pairwise_cons.2 ⟨fun e he => ?_, ih hr.2⟩
        rcases mem_put he with rfl | he
        · exact hgt
        · exact hr.1 e he

theorem lookup_put_self {α : Type} (key : Text) (value : α) (entries : List (Text × α)) :
    (put key value entries).lookup key = some value := by
  induction entries with
  | nil => simp [put]
  | cons head rest ih =>
    obtain ⟨k, v⟩ := head
    rw [put]
    split
    · simp
    · split
      · simp
      · next hne => rw [List.lookup_cons, beq_false_of_ne hne]; exact ih

theorem lookup_put_of_ne {α : Type} {key other : Text} (value : α) (entries : List (Text × α))
    (h : other ≠ key) : (put key value entries).lookup other = entries.lookup other := by
  induction entries with
  | nil => simp [put, List.lookup_cons, beq_false_of_ne h]
  | cons head rest ih =>
    obtain ⟨k, v⟩ := head
    rw [put]
    split
    · rw [List.lookup_cons, beq_false_of_ne h]
    · split
      · next heq => subst heq; simp [List.lookup_cons, beq_false_of_ne h]
      · rw [List.lookup_cons, List.lookup_cons, ih]

/-- A finite map from text. -/
structure KeyMap (α : Type) where
  entries : List (Text × α)
  ascending : Ascending entries

namespace KeyMap

variable {α β : Type}

/-- Maps are equal when their entries are. -/
instance [DecidableEq α] : DecidableEq (KeyMap α) := fun a b =>
  if h : a.entries = b.entries then isTrue (by cases a; cases b; simp_all)
  else isFalse fun e => h (by rw [e])

@[ext] theorem ext {a b : KeyMap α} (h : a.entries = b.entries) : a = b := by
  cases a; cases b; simp_all

/-- The map without entries. -/
def empty : KeyMap α := ⟨[], List.Pairwise.nil⟩

instance : Inhabited (KeyMap α) := ⟨empty⟩

/-- Writes `value` under `key`, in place of what was there. -/
def insert (m : KeyMap α) (key : Text) (value : α) : KeyMap α :=
  ⟨put key value m.entries, ascending_put m.ascending⟩

/-- What is written under a key. -/
def get? (m : KeyMap α) (key : Text) : Option α := m.entries.lookup key

@[simp] theorem get?_empty (key : Text) : (empty : KeyMap α).get? key = none := rfl

@[simp] theorem get?_insert_self (m : KeyMap α) (key : Text) (value : α) :
    (m.insert key value).get? key = some value := lookup_put_self key value m.entries

theorem get?_insert_of_ne (m : KeyMap α) {key other : Text} (value : α) (h : other ≠ key) :
    (m.insert key value).get? other = m.get? other := lookup_put_of_ne value m.entries h

/-- The number of keys. -/
def size (m : KeyMap α) : Nat := m.entries.length

/-- Whether there is no key. -/
def isEmpty (m : KeyMap α) : Bool := m.entries.isEmpty

/-- The map of a list of writes, of which the last to each key counts. -/
def ofList (writes : List (Text × α)) : KeyMap α :=
  writes.foldl (fun m w => m.insert w.1 w.2) empty

end KeyMap

end RuleTemplate
