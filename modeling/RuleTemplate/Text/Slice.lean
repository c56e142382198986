import RuleTemplate.Text.Basic

/-!
# Slices

Parts of a text by the offsets of their ends, which are counted in bytes. An offset is a border of
the text when no character lies across it; slices are meant to be cut at borders.
-/

namespace RuleTemplate.Text

/-- The text behind its first `n` bytes. -/
def dropBytes : Nat → Text → Text
  | 0, t => t
  | _ + 1, [] => []
  | n + 1, c :: t => dropBytes (n + 1 - c.utf8Size) t

/-- The characters that lie within the first `n` bytes. -/
def takeBytes : Nat → Text → Text
  | 0, _ => []
  | _ + 1, [] => []
  | n + 1, c :: t =>
    if c.utf8Size ≤ n + 1 then c :: takeBytes (n + 1 - c.utf8Size) t else []

/-- The text from offset `start` to offset `stop`. -/
def slice (start stop : Nat) (t : Text) : Text := takeBytes (stop - start) (dropBytes start t)

/-- The offset of the first occurrence of a character. -/
def find? (c : Char) : Text → Option Nat
  | [] => none
  | d :: t => if d = c then some 0 else (find? c t).map (d.utf8Size + ·)

@[simp] theorem dropBytes_nil (n : Nat) : dropBytes n [] = [] := by cases n <;> rfl

@[simp] theorem dropBytes_zero (t : Text) : dropBytes 0 t = t := by cases t <;> rfl

/-- The first character takes its part of the bytes of a text, and leaves those of the others. -/
theorem exists_byteSize_cons (c : Char) (t : Text) :
    ∃ n, byteSize (c :: t) = n + 1 ∧ c.utf8Size ≤ n + 1 ∧ n + 1 - c.utf8Size = byteSize t := by
  have hc := c.utf8Size_pos
  refine ⟨byteSize (c :: t) - 1, ?_, ?_, ?_⟩ <;> rw [byteSize_cons] <;> omega

/-- Behind the bytes of `s` comes what was appended to it. -/
@[simp] theorem dropBytes_byteSize_append (s t : Text) : dropBytes (byteSize s) (s ++ t) = t := by
  induction s with
  | nil => simp
  | cons c s ih =>
    obtain ⟨n, hn, -, hs⟩ := exists_byteSize_cons c s
    rw [hn, List.cons_append, dropBytes, hs, ih]

/-- The characters within the bytes of `s` are those of `s`. -/
@[simp] theorem takeBytes_byteSize_append (s t : Text) : takeBytes (byteSize s) (s ++ t) = s := by
  induction s with
  | nil => simp [takeBytes]
  | cons c s ih =>
    obtain ⟨n, hn, hc, hs⟩ := exists_byteSize_cons c s
    rw [hn, List.cons_append, takeBytes, if_pos hc, hs, ih]

/-- A slice between two borders is the text between them. -/
theorem slice_byteSize (before held rest : Text) :
    slice (byteSize before) (byteSize (before ++ held)) (before ++ (held ++ rest)) = held := by
  rw [slice, dropBytes_byteSize_append, byteSize_append, Nat.add_sub_cancel_left,
    takeBytes_byteSize_append]

theorem byteSize_dropBytes_le (n : Nat) (t : Text) : byteSize (dropBytes n t) ≤ byteSize t - n := by
  induction t generalizing n with
  | nil => simp
  | cons c t ih =>
    cases n with
    | zero => simp
    | succ n =>
      have := ih (n + 1 - c.utf8Size)
      rw [dropBytes, byteSize_cons]
      omega

theorem length_dropBytes_le (n : Nat) (t : Text) : (dropBytes n t).length ≤ t.length := by
  induction t generalizing n with
  | nil => simp
  | cons c t ih =>
    cases n with
    | zero => simp
    | succ n => exact Nat.le_succ_of_le (ih (n + 1 - c.utf8Size))

/-- What is found lies within the text. -/
theorem lt_byteSize_of_find? {c : Char} {t : Text} {n : Nat} (h : find? c t = some n) :
    n < byteSize t := by
  induction t generalizing n with
  | nil => simp [find?] at h
  | cons d t ih =>
    have hd := d.utf8Size_pos
    rw [find?] at h
    split at h
    · cases h; simp; omega
    · obtain ⟨m, hm, rfl⟩ := Option.map_eq_some_iff.1 h
      have := ih hm
      simp; omega

/-- The first occurrence stands behind the characters that differ from it. -/
theorem find?_append_cons {c : Char} {before : Text} (h : c ∉ before) (behind : Text) :
    find? c (before ++ c :: behind) = some (byteSize before) := by
  induction before with
  | nil => simp [find?]
  | cons d before ih =>
    obtain ⟨hd, hb⟩ := not_or.1 (mt List.mem_cons.2 h)
    rw [List.cons_append, find?, if_neg (Ne.symm hd), ih hb, Option.map_some, byteSize_cons]

theorem find?_eq_none {c : Char} {t : Text} (h : c ∉ t) : find? c t = none := by
  induction t with
  | nil => rfl
  | cons d t ih =>
    obtain ⟨hd, ht⟩ := not_or.1 (mt List.mem_cons.2 h)
    rw [find?, if_neg (Ne.symm hd), ih ht, Option.map_none]

end RuleTemplate.Text
