import RuleTemplate.Proofs.Text.Letters

/-!
# Texts as bytes

To compare the first bytes of a text with those of a name, ignoring the case of ASCII letters, is to
compare its first characters, as long as the name is ASCII (`Text.bytesBegin_iff`): no byte of a
longer character is one of an ASCII character, in either case. So such a comparison never ends
inside a character.
-/

namespace RuleTemplate.Text

/-- The bytes of the UTF-8 form. -/
def bytes (t : Text) : List UInt8 := t.flatMap String.utf8EncodeChar

/-- The first bytes of `t` are those of `lead`, but for the case of ASCII letters. -/
def BytesBegin (lead t : Text) : Prop :=
  (t.bytes.take lead.bytes.length).map UInt8.toAsciiLower = lead.bytes.map UInt8.toAsciiLower

/-- Bytes can be compared. -/
instance (lead t : Text) : Decidable (BytesBegin lead t) := inferInstanceAs (Decidable (_ = _))

variable {lead t : Text} {c d : Char}

/-! ## Characters -/

/-- An ASCII character is one byte. -/
lemma utf8EncodeChar_of_ascii (h : c.toNat < 128) :
    String.utf8EncodeChar c = [UInt8.ofNat c.toNat] :=
  if_pos (Nat.le_of_lt_succ h)

lemma bytes_cons_of_ascii (h : c.toNat < 128) (t : Text) :
    bytes (c :: t) = UInt8.ofNat c.toNat :: bytes t := by
  rw [bytes, List.flatMap_cons, utf8EncodeChar_of_ascii h]
  rfl

/-- The bytes of any other character are none that an ASCII character has. -/
lemma le_of_mem_utf8EncodeChar (h : 128 ≤ c.toNat) {b : UInt8}
    (hb : b ∈ String.utf8EncodeChar c) : 128 ≤ b.toNat := by
  have hv : c.val.toNat = c.toNat := rfl
  unfold String.utf8EncodeChar at hb
  rw [hv] at hb
  simp only at hb
  rw [if_neg (by omega)] at hb
  have hbyte : ∀ n, 128 ≤ n % 256 → 128 ≤ (UInt8.ofNat n).toNat := fun n hn => by
    rwa [UInt8.toNat_ofNat']
  split at hb
  · simp only [List.mem_cons, List.not_mem_nil, or_false] at hb
    rcases hb with rfl | rfl <;> exact hbyte _ (by omega)
  split at hb <;> simp only [List.mem_cons, List.not_mem_nil, or_false] at hb
  · rcases hb with rfl | rfl | rfl <;> exact hbyte _ (by omega)
  · rcases hb with rfl | rfl | rfl | rfl <;> exact hbyte _ (by omega)

lemma exists_bytes_cons (h : 128 ≤ c.toNat) (t : Text) :
    ∃ b rest, bytes (c :: t) = b :: rest ∧ 128 ≤ b.toNat := by
  obtain ⟨b, rest, hchar⟩ : ∃ b rest, String.utf8EncodeChar c = b :: rest :=
    List.exists_cons_of_ne_nil String.utf8EncodeChar_ne_nil
  refine ⟨b, rest ++ bytes t, ?_, le_of_mem_utf8EncodeChar h (hchar ▸ List.mem_cons_self ..)⟩
  rw [bytes, List.flatMap_cons, hchar]
  rfl

/-- The small letter of an ASCII character is ASCII, and its byte is that of the character in lower
case. -/
lemma toAsciiLower_ofNat (h : c.toNat < 128) : c.toLower.toNat < 128 ∧
    (UInt8.ofNat c.toNat).toAsciiLower = UInt8.ofNat c.toLower.toNat := by
  have hall : ∀ n : Fin 128, (Char.ofNat n).toLower.toNat < 128 ∧
      (UInt8.ofNat n).toAsciiLower = UInt8.ofNat (Char.ofNat n).toLower.toNat := by decide
  have hc := hall ⟨c.toNat, h⟩
  rwa [Char.ofNat_toNat] at hc

/-- Bytes of ASCII characters are the same but for the case of letters when the characters are. -/
lemma toAsciiLower_eq_iff (hc : c.toNat < 128) (hd : d.toNat < 128) :
    (UInt8.ofNat c.toNat).toAsciiLower = (UInt8.ofNat d.toNat).toAsciiLower
      ↔ c.toLower = d.toLower := by
  obtain ⟨hc', hcbyte⟩ := toAsciiLower_ofNat hc
  obtain ⟨hd', hdbyte⟩ := toAsciiLower_ofNat hd
  rw [hcbyte, hdbyte, ← UInt8.toNat_inj, UInt8.toNat_ofNat', UInt8.toNat_ofNat', ← Char.toNat_inj]
  omega

/-- A byte of a longer character is none of an ASCII character, whatever the case. -/
lemma toAsciiLower_ne {b : UInt8} (hb : 128 ≤ b.toNat) (hd : d.toNat < 128) :
    b.toAsciiLower ≠ (UInt8.ofNat d.toNat).toAsciiLower := by
  have hall : ∀ n : Fin 256, 128 ≤ n.val → 128 ≤ (UInt8.ofNat n).toAsciiLower.toNat := by
    decide +kernel
  have hlarge : 128 ≤ b.toAsciiLower.toNat := by
    have hb' := hall ⟨b.toNat, b.toNat_lt⟩ hb
    rwa [UInt8.ofNat_toNat] at hb'
  obtain ⟨hd', hdbyte⟩ := toAsciiLower_ofNat hd
  intro heq
  rw [heq, hdbyte, UInt8.toNat_ofNat'] at hlarge
  omega

/-- A character that is not ASCII has no small letter that is. -/
lemma toLower_ne (hc : 128 ≤ c.toNat) (hd : d.toNat < 128) : c.toLower ≠ d.toLower := by
  have hsame : c.toLower = c := (toLower_cases c).resolve_right (by omega)
  rw [hsame]
  rintro rfl
  have := (toAsciiLower_ofNat hd).1
  omega

/-! ## Texts -/

/-- The first bytes are those of an ASCII text when the first characters are, in either case. -/
theorem bytesBegin_iff (hlead : ∀ c ∈ lead, c.toNat < 128) :
    BytesBegin lead t ↔ sameLetters (t.take lead.length) lead = true := by
  rw [sameLetters, beq_iff_eq]
  unfold BytesBegin
  induction lead generalizing t with
  | nil => simp [bytes, lower]
  | cons d lead ih =>
    obtain ⟨hd, hrest⟩ := List.forall_mem_cons.1 hlead
    rw [bytes_cons_of_ascii hd]
    cases t with
    | nil => simp [bytes, lower]
    | cons c t =>
      rw [List.length_cons, List.length_cons, List.take_succ_cons, lower, lower, List.map_cons,
        List.map_cons, List.map_cons, List.cons_eq_cons]
      by_cases hc : c.toNat < 128
      · rw [bytes_cons_of_ascii hc, List.take_succ_cons, List.map_cons, List.cons_eq_cons,
          toAsciiLower_eq_iff hc hd]
        exact and_congr_right fun _ => ih hrest
      · obtain ⟨b, rest, hbytes, hb⟩ := exists_bytes_cons (Nat.le_of_not_lt hc) t
        rw [hbytes, List.take_succ_cons, List.map_cons, List.cons_eq_cons]
        constructor
        · rintro ⟨hfirst, -⟩
          exact absurd hfirst (toAsciiLower_ne hb hd)
        · rintro ⟨hfirst, -⟩
          exact absurd hfirst (toLower_ne (Nat.le_of_not_lt hc) hd)

end RuleTemplate.Text
