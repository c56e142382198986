import RuleTemplate.Proofs.Text.Pieces
import RuleTemplate.Uuid

/-!
# Identifiers are read as they are written

The text of an identifier is the hyphenated form. Its groups, put together, are the digits of the
identifier, and each digit is read as itself (`Uuid.read_text`). So different identifiers have
different texts.
-/

namespace RuleTemplate

namespace Uuid

variable {digits : List (Fin 16)}

lemma digit?_digitChar : ∀ d : Fin 16, digit? (digitChar d) = some d := by decide

lemma utf8Size_digitChar : ∀ d : Fin 16, (digitChar d).utf8Size = 1 := by decide

lemma notMem_map_digitChar {c : Char} (hc : digit? c = none) (digits : List (Fin 16)) :
    c ∉ digits.map digitChar := by
  intro h
  obtain ⟨d, -, rfl⟩ := List.mem_map.1 h
  rw [digit?_digitChar] at hc
  cases hc

/-- Each digit has one byte. -/
lemma byteSize_map_digitChar (digits : List (Fin 16)) :
    Text.byteSize (digits.map digitChar) = digits.length := by
  induction digits with
  | nil => rfl
  | cons d digits ih =>
    rw [List.map_cons, Text.byteSize_cons, ih, utf8Size_digitChar, List.length_cons, Nat.add_comm]

lemma mapM_digit? (digits : List (Fin 16)) : (digits.map digitChar).mapM digit? = some digits := by
  induction digits with
  | nil => rfl
  | cons d digits ih => rw [List.map_cons, List.mapM_cons, digit?_digitChar, ih]; rfl

/-- The digits between the hyphens of the text. -/
def groups (u : Uuid) : List (List (Fin 16)) :=
  [u.digits.take 8, (u.digits.drop 8).take 4, (u.digits.drop 12).take 4, (u.digits.drop 16).take 4,
    u.digits.drop 20]

/-- What lies between two places of a list, and what comes behind. -/
lemma take_drop_append_drop (m n : Nat) :
    (digits.drop m).take n ++ digits.drop (m + n) = digits.drop m := by
  rw [← List.drop_drop, List.take_append_drop]

lemma flatten_groups (u : Uuid) : u.groups.flatten = u.digits := by
  simp only [groups, List.flatten_cons, List.flatten_nil, List.append_nil]
  rw [take_drop_append_drop 16 4, take_drop_append_drop 12 4, take_drop_append_drop 8 4,
    List.take_append_drop]

lemma map_length_groups (u : Uuid) : u.groups.map List.length = groupLengths := by
  simp [groups, groupLengths, u.length_digits]

lemma splitAt_text (u : Uuid) : Text.splitAt '-' u.text = u.groups.map (List.map digitChar) := by
  simp only [text, ← List.map_take, ← List.map_drop]
  have hhyphen : digit? '-' = none := rfl
  have hsplit : ∀ (digits : List (Fin 16)) t, Text.splitAt '-' (digits.map digitChar ++ '-' :: t)
      = digits.map digitChar :: Text.splitAt '-' t :=
    fun digits t => Text.splitAt_append_cons (notMem_map_digitChar hhyphen digits) t
  rw [hsplit, hsplit, hsplit, hsplit, Text.splitAt_of_not_mem (notMem_map_digitChar hhyphen _)]
  rfl

/-- The hyphenated form has 32 digits and four hyphens. -/
lemma byteSize_text (u : Uuid) : Text.byteSize u.text = 36 := by
  have hlength := u.length_digits
  simp only [text, ← List.map_take, ← List.map_drop, Text.byteSize_append, Text.byteSize_cons,
    byteSize_map_digitChar, List.length_take, List.length_drop, hlength]
  rfl

/-- An identifier is read as it is written. -/
theorem read_text (u : Uuid) : read u.text = .ok u := by
  have hdigits : ofDigits? (u.digits.map digitChar) = some u := by
    simp only [ofDigits?, mapM_digit?, u.length_digits, dif_pos]
  have hgroups : ofGroups? u.text = some u := by
    simp only [ofGroups?, splitAt_text]
    rw [if_pos, ← List.map_flatten, flatten_groups, hdigits]
    -- what is left is the condition: the pieces are as long as the groups
    rw [List.map_map, ← map_length_groups]
    refine List.map_congr_left fun group _ => ?_
    exact List.length_map _
  have hread : read? u.text = some u := by
    rw [read?, hyphenated?, if_pos u.byteSize_text]
    exact hgroups
  rw [read, hread]

/-- Different identifiers have different texts. -/
lemma text_injective : Function.Injective text := by
  intro u v h
  have hread := u.read_text
  rw [h, v.read_text] at hread
  exact (Except.ok.inj hread).symm

/-- There are only digits and hyphens in the text of an identifier. -/
lemma notMem_text {c : Char} (hc : digit? c = none) (hhyphen : c ≠ '-') (u : Uuid) :
    c ∉ u.text := by
  have hdigits := notMem_map_digitChar hc
  simp only [text, ← List.map_take, ← List.map_drop, List.mem_append, List.mem_cons, hdigits,
    hhyphen, or_self, not_false_eq_true]

end Uuid
end RuleTemplate
