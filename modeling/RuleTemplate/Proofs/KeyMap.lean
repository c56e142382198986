import Mathlib.Data.Finset.Card
import Mathlib.Tactic.Lemma
import RuleTemplate.KeyMap

/-!
# Entries by key

What stands under a key is all that matters of entries in key order (`Ascending.eq_of_lookup_eq`).
So a map can be written in any order: the writes, each to a key of its own, make the map whose
entries they are (`KeyMap.ofList_eq_of_perm`). When several writes go to a key, the last one counts
(`LastWrite`), and maps are equal when the last writes are (`KeyMap.ofList_eq_iff`).
-/

namespace RuleTemplate

variable {α : Type} {a b entries : List (Text × α)} {k : Text} {v : α}

/-! ## Keys that come once -/

/-- Among entries with a key once, the entry of that key is found. -/
lemma lookup_of_count_le_one (h : (k, v) ∈ entries) (hcount : (entries.map (·.1)).count k ≤ 1) :
    entries.lookup k = some v := by
  induction entries with
  | nil => cases h
  | cons e entries ih =>
    obtain ⟨l, w⟩ := e
    rw [List.lookup_cons]
    rcases List.mem_cons.1 h with he | h
    · cases he
      rw [beq_self_eq_true]
    · have hmem : k ∈ entries.map (·.1) := List.mem_map_of_mem (f := (·.1)) h
      have hpos := List.count_pos_iff.2 hmem
      have hne : l ≠ k := by
        rintro rfl
        rw [List.map_cons, List.count_cons_self] at hcount
        omega
      rw [beq_false_of_ne (Ne.symm hne)]
      refine ih h ?_
      rwa [List.map_cons, List.count_cons_of_ne hne] at hcount

lemma lookup_of_nodup (hnodup : (entries.map (·.1)).Nodup) (h : (k, v) ∈ entries) :
    entries.lookup k = some v :=
  lookup_of_count_le_one h (List.nodup_iff_count_le_one.1 hnodup k)

lemma mem_of_lookup (h : entries.lookup k = some v) : (k, v) ∈ entries := by
  obtain ⟨before, behind, rfl, -⟩ := List.lookup_eq_some_iff.1 h
  exact List.mem_append_right _ (List.mem_cons_self ..)

lemma lookup_eq_none_of_notMem (h : k ∉ entries.map (·.1)) : entries.lookup k = none := by
  cases hl : entries.lookup k with
  | none => rfl
  | some v => exact absurd (List.mem_map_of_mem (f := (·.1)) (mem_of_lookup hl)) h

lemma exists_lookup_of_mem (h : k ∈ entries.map (·.1)) : ∃ v, entries.lookup k = some v := by
  cases hl : entries.lookup k with
  | some v => exact ⟨v, rfl⟩
  | none =>
    obtain ⟨e, he, rfl⟩ := List.mem_map.1 h
    exact absurd (List.lookup_eq_none_iff.1 hl e he) (by simp)

/-- The order of entries with distinct keys does not matter. -/
lemma lookup_eq_of_perm (hnodup : (a.map (·.1)).Nodup) (h : a.Perm b) (k : Text) :
    b.lookup k = a.lookup k := by
  have hnodup' : (b.map (·.1)).Nodup := (h.map _).nodup_iff.1 hnodup
  cases hl : a.lookup k with
  | some v => exact lookup_of_nodup hnodup' (h.mem_iff.1 (mem_of_lookup hl))
  | none =>
    cases hb : b.lookup k with
    | none => rfl
    | some v =>
      rw [lookup_of_nodup hnodup (h.mem_iff.2 (mem_of_lookup hb))] at hl
      cases hl

/-- What stands under another key is found also when the entries of a key are left out. -/
lemma lookup_filter_ne {l : Text} (h : k ≠ l) :
    (entries.filter (·.1 ≠ l)).lookup k = entries.lookup k := by
  induction entries with
  | nil => rfl
  | cons e entries ih =>
    obtain ⟨j, w⟩ := e
    by_cases hj : j = l
    · have hkj : k ≠ j := fun heq => h (heq.trans hj)
      rw [List.filter_cons_of_neg (by simpa using hj), ih, List.lookup_cons, beq_false_of_ne hkj]
    · rw [List.filter_cons_of_pos (by simpa using hj), List.lookup_cons, List.lookup_cons, ih]

/-- What stands under a key is changed as all values are. -/
lemma lookup_map_snd {β : Type} (g : α → β) (entries : List (Text × α)) (k : Text) :
    (entries.map fun e => (e.1, g e.2)).lookup k = (entries.lookup k).map g := by
  induction entries with
  | nil => rfl
  | cons e entries ih =>
    obtain ⟨l, v⟩ := e
    rw [List.map_cons, List.lookup_cons, List.lookup_cons, ih]
    cases k == l <;> rfl

/-- What stands under a key is changed, or left out, as all values are. -/
lemma lookup_filterMap_snd {β : Type} (g : α → Option β) (hnodup : (entries.map (·.1)).Nodup)
    (k : Text) : (entries.filterMap fun e => (g e.2).map fun w => (e.1, w)).lookup k
      = (entries.lookup k).bind g := by
  induction entries with
  | nil => rfl
  | cons e entries ih =>
    obtain ⟨l, v⟩ := e
    rw [List.map_cons, List.nodup_cons] at hnodup
    rw [List.filterMap_cons, List.lookup_cons]
    by_cases hk : k = l
    · subst hk
      rw [beq_self_eq_true]
      show _ = g v
      cases g v with
      | none =>
        -- no later entry has the key
        have hlater := ih hnodup.2
        rw [lookup_eq_none_of_notMem hnodup.1] at hlater
        exact hlater
      | some w => exact List.lookup_cons_self
    · rw [beq_false_of_ne hk, ← ih hnodup.2]
      cases g v with
      | none => rfl
      | some w =>
        show List.lookup k ((l, w) :: _) = _
        rw [List.lookup_cons, beq_false_of_ne hk]

/-- Of entries with distinct keys, one has the key. -/
lemma filter_eq_singleton (hnodup : (entries.map (·.1)).Nodup) (h : (k, v) ∈ entries) :
    entries.filter (·.1 = k) = [(k, v)] := by
  induction entries with
  | nil => cases h
  | cons e entries ih =>
    rw [List.map_cons, List.nodup_cons] at hnodup
    rcases List.mem_cons.1 h with rfl | h
    · have hnone : ∀ e ∈ entries, ¬ e.1 = k := fun e he heq =>
        hnodup.1 (heq ▸ List.mem_map_of_mem (f := (·.1)) he)
      rw [List.filter_cons_of_pos (by simp), List.filter_eq_nil_iff.2 (by simpa using hnone)]
    · have hne : e.1 ≠ k := fun heq =>
        hnodup.1 (heq ▸ List.mem_map_of_mem (f := (·.1)) h)
      rw [List.filter_cons_of_neg (by simpa using hne), ih hnodup.2 h]

/-! ## Keys in order -/

lemma Ascending.nodup (h : Ascending entries) : (entries.map (·.1)).Nodup := by
  refine List.pairwise_map.2 (h.imp fun hbefore heq => ?_)
  rw [heq, Text.before_irrefl] at hbefore
  cases hbefore

/-- The order of keys does not depend on the values. -/
lemma Ascending.map_snd {β : Type} (h : Ascending entries) (g : α → β) :
    Ascending (entries.map fun e => (e.1, g e.2)) := by
  unfold Ascending
  rw [List.pairwise_map]
  exact h

/-- Leaving out entries keeps the order of keys. -/
lemma Ascending.filterMap_snd {β : Type} (h : Ascending entries) (g : α → Option β) :
    Ascending (entries.filterMap fun e => (g e.2).map fun w => (e.1, w)) := by
  refine List.pairwise_filterMap.2 (h.imp fun {e f} hbefore a ha b hb => ?_)
  obtain ⟨v, -, rfl⟩ := Option.map_eq_some_iff.1 ha
  obtain ⟨w, -, rfl⟩ := Option.map_eq_some_iff.1 hb
  exact hbefore

/-- No entry stands under a key before the first one. -/
lemma Ascending.lookup_eq_none {l : Text} {w : α} (h : Ascending ((l, w) :: entries))
    (hk : Text.before k l = true) : ((l, w) :: entries).lookup k = none := by
  refine lookup_eq_none_of_notMem fun hmem => ?_
  obtain ⟨e, he, rfl⟩ := List.mem_map.1 hmem
  have hlater : Text.before e.1 e.1 = true := by
    rcases List.mem_cons.1 he with rfl | he
    · exact hk
    · exact Text.before_trans hk ((List.pairwise_cons.1 h).1 e he)
  rw [Text.before_irrefl] at hlater
  cases hlater

/-- Behind its first entry, the keys of a list in order are others. -/
lemma Ascending.lookup_tail {l : Text} {w : α} (h : Ascending ((l, w) :: entries)) :
    entries.lookup l = none := by
  refine lookup_eq_none_of_notMem ?_
  have hnodup := h.nodup
  rw [List.map_cons, List.nodup_cons] at hnodup
  exact hnodup.1

/-- Entries in key order are the same when the same stands under each key. -/
theorem Ascending.eq_of_lookup_eq (ha : Ascending a) (hb : Ascending b)
    (h : ∀ k, a.lookup k = b.lookup k) : a = b := by
  induction a generalizing b with
  | nil =>
    cases b with
    | nil => rfl
    | cons e b =>
      have hhead := h e.1
      rw [List.lookup_cons_self] at hhead
      cases hhead
  | cons e a ih =>
    obtain ⟨k, v⟩ := e
    cases b with
    | nil =>
      have hhead := h k
      rw [List.lookup_cons_self] at hhead
      cases hhead
    | cons e b =>
      obtain ⟨l, w⟩ := e
      have hk := h k
      have hl := h l
      rw [List.lookup_cons_self] at hk hl
      -- the first keys are the same, as the lesser one would be missing on the other side
      have hkl : k = l := by
        by_contra hne
        cases hbefore : Text.before k l with
        | true =>
          rw [hb.lookup_eq_none hbefore] at hk
          cases hk
        | false =>
          rw [ha.lookup_eq_none (Text.before_of_not_before hne hbefore)] at hl
          cases hl
      subst hkl
      rw [List.lookup_cons_self] at hk
      cases hk
      refine congrArg _ (ih (List.pairwise_cons.1 ha).2 (List.pairwise_cons.1 hb).2 fun j => ?_)
      by_cases hj : j = k
      · rw [hj, ha.lookup_tail, hb.lookup_tail]
      · have := h j
        rwa [List.lookup_cons, List.lookup_cons, beq_false_of_ne hj] at this

/-! ## Writing -/

/-- Writing under a new key adds an entry. -/
lemma put_perm (h : k ∉ entries.map (·.1)) : (put k v entries).Perm ((k, v) :: entries) := by
  induction entries with
  | nil => exact List.Perm.refl _
  | cons e entries ih =>
    obtain ⟨l, w⟩ := e
    obtain ⟨hl, hrest⟩ := not_or.1 (mt List.mem_cons.2 h)
    rw [put]
    split
    · exact List.Perm.refl _
    · exact ((ih hrest).cons (l, w)).trans (List.Perm.swap ..)

/-! ## Last writes -/

/-- The last write to `k` is that of `v`. -/
def LastWrite (writes : List (Text × α)) (k : Text) (v : α) : Prop :=
  ∃ before behind, writes = before ++ (k, v) :: behind ∧ ∀ w ∈ behind, w.1 ≠ k

/-- The last write is the first one that is found from the end. -/
lemma lastWrite_iff {writes : List (Text × α)} :
    LastWrite writes k v ↔ writes.reverse.lookup k = some v := by
  rw [List.lookup_eq_some_iff]
  constructor
  · rintro ⟨before, behind, rfl, hbehind⟩
    refine ⟨behind.reverse, before.reverse, by simp, fun w hw => ?_⟩
    exact bne_iff_ne.2 (Ne.symm (hbehind w (List.mem_reverse.1 hw)))
  · rintro ⟨behind, before, hwrites, hbehind⟩
    refine ⟨before.reverse, behind.reverse, ?_, fun w hw => ?_⟩
    · rw [← List.reverse_reverse writes, hwrites]
      simp
    · exact Ne.symm (bne_iff_ne.1 (hbehind w (List.mem_reverse.1 hw)))

/-- When all values are changed, so are those of the last writes. -/
lemma lastWrite_map_snd {β : Type} (g : α → β) {writes : List (Text × α)} {w : β} :
    LastWrite (writes.map fun e => (e.1, g e.2)) k w ↔ ∃ v, LastWrite writes k v ∧ g v = w := by
  rw [lastWrite_iff, ← List.map_reverse, lookup_map_snd, Option.map_eq_some_iff]
  simp only [lastWrite_iff]

namespace KeyMap

/-- The map with all values changed. -/
def mapValues {β : Type} (g : α → β) (m : KeyMap α) : KeyMap β :=
  ⟨m.entries.map fun e => (e.1, g e.2), m.ascending.map_snd g⟩

/-- The map with all values changed or left out. -/
def filterMapValues {β : Type} (g : α → Option β) (m : KeyMap α) : KeyMap β :=
  ⟨m.entries.filterMap fun e => (g e.2).map fun w => (e.1, w), m.ascending.filterMap_snd g⟩

/-- An entry is what stands under its key. -/
lemma mem_entries_iff {m : KeyMap α} : (k, v) ∈ m.entries ↔ m.get? k = some v :=
  ⟨lookup_of_nodup m.ascending.nodup, mem_of_lookup⟩

lemma get?_eq_none_iff {m : KeyMap α} : m.get? k = none ↔ k ∉ m.entries.map (·.1) := by
  refine ⟨fun h hmem => ?_, lookup_eq_none_of_notMem⟩
  obtain ⟨v, hv⟩ := exists_lookup_of_mem hmem
  cases h.symm.trans hv

/-- Maps are equal when the same stands under each key. -/
lemma eq_of_get?_eq {m n : KeyMap α} (h : ∀ k, m.get? k = n.get? k) : m = n :=
  KeyMap.ext (m.ascending.eq_of_lookup_eq n.ascending h)

/-- What was there before stands under the keys to which nothing is written. -/
lemma get?_foldl_insert (writes : List (Text × α)) (m : KeyMap α) (k : Text) :
    (writes.foldl (fun m w => m.insert w.1 w.2) m).get? k
      = (writes.reverse.lookup k).or (m.get? k) := by
  induction writes generalizing m with
  | nil => rfl
  | cons w writes ih =>
    obtain ⟨l, v⟩ := w
    rw [List.foldl_cons, ih, List.reverse_cons, List.lookup_append, Option.or_assoc,
      List.lookup_cons]
    by_cases hk : k = l
    · rw [hk, beq_self_eq_true, get?_insert_self]
      rfl
    · rw [beq_false_of_ne hk, get?_insert_of_ne m v hk]
      rfl

/-- Under a key stands what was written there last. -/
lemma get?_ofList (writes : List (Text × α)) (k : Text) :
    (ofList writes).get? k = writes.reverse.lookup k := by
  rw [ofList, get?_foldl_insert, get?_empty, Option.or_none]

/-- The entries of a map make the map, in whatever order they are written. -/
theorem ofList_eq_of_perm {m : KeyMap α} (h : m.entries.Perm entries) : ofList entries = m := by
  refine eq_of_get?_eq fun k => ?_
  rw [get?_ofList, get?]
  exact lookup_eq_of_perm m.ascending.nodup (h.trans (List.reverse_perm entries).symm) k

/-- Under a key stands the value that was written there last. -/
lemma get?_ofList_eq_some_iff {writes : List (Text × α)} :
    (ofList writes).get? k = some v ↔ LastWrite writes k v := by
  rw [get?_ofList, lastWrite_iff]

/-- Nothing stands under the keys to which nothing was written. -/
lemma get?_ofList_eq_none_iff {writes : List (Text × α)} :
    (ofList writes).get? k = none ↔ ∀ w ∈ writes, w.1 ≠ k := by
  rw [get?_ofList, List.lookup_eq_none_iff]
  simp [bne_iff_ne, ne_comm]

/-- The keys are those to which something was written. -/
lemma mem_keys_ofList {writes : List (Text × α)} :
    k ∈ (ofList writes).entries.map (·.1) ↔ k ∈ writes.map (·.1) := by
  have hnone : (ofList writes).get? k = none ↔ k ∉ writes.map (·.1) := by
    rw [get?_ofList_eq_none_iff, List.mem_map, not_exists]
    exact forall_congr' fun w => not_and.symm
  exact not_iff_not.1 (get?_eq_none_iff.symm.trans hnone)

/-- A map has as many keys as something was written to. -/
lemma size_ofList (writes : List (Text × α)) :
    (ofList writes).size = (writes.map (·.1)).toFinset.card := by
  have hkeys : (writes.map (·.1)).toFinset = ((ofList writes).entries.map (·.1)).toFinset := by
    ext k
    rw [List.mem_toFinset, List.mem_toFinset, mem_keys_ofList]
  rw [hkeys, List.toFinset_card_of_nodup (ofList writes).ascending.nodup, List.length_map, size]

lemma isEmpty_ofList {writes : List (Text × α)} : (ofList writes).isEmpty = true ↔ writes = [] := by
  rw [isEmpty, List.isEmpty_iff, ← List.length_eq_zero_iff]
  show (ofList writes).size = 0 ↔ _
  rw [size_ofList, Finset.card_eq_zero, List.toFinset_eq_empty_iff, List.map_eq_nil_iff]

/-- Maps that were written are equal when the last writes to each key are. -/
theorem ofList_eq_iff {a b : List (Text × α)} :
    ofList a = ofList b ↔ ∀ k v, LastWrite a k v ↔ LastWrite b k v := by
  constructor
  · intro h k v
    rw [← get?_ofList_eq_some_iff, ← get?_ofList_eq_some_iff, h]
  · intro h
    refine eq_of_get?_eq fun k => Option.ext fun v => ?_
    rw [get?_ofList_eq_some_iff, get?_ofList_eq_some_iff, h]

end KeyMap
end RuleTemplate
