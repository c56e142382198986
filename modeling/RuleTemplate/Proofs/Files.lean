import Mathlib.Tactic.Lemma
import RuleTemplate.Files
import RuleTemplate.Proofs.Text.Bytes

/-!
# Texts in files

A file holds a text when its bytes are the UTF-8 form of the text (`Files.text_eq_ok_iff`). In every
other case its text is unreadable, for one of two reasons (`Files.text_eq_error_iff`). No byte of
another character is that of a line feed, so the lines of the bytes are those of the text
(`Text.linesOfBytes_utf8`).
-/

namespace RuleTemplate

/-- The UTF-8 form of a text. -/
def Text.utf8 (t : Text) : ByteArray := (String.ofList t).toUTF8

/-- The text that bytes hold is the one whose UTF-8 form they are. -/
lemma Text.ofBytes?_eq_some_iff {bytes : ByteArray} {t : Text} :
    ofBytes? bytes = some t ↔ bytes = utf8 t := by
  unfold ofBytes? String.fromUTF8?
  constructor
  · intro h
    obtain ⟨s, hs, rfl⟩ := Option.map_eq_some_iff.1 h
    split at hs
    · cases hs
      rw [utf8, String.ofList_toList]
      rfl
    · cases hs
  · rintro rfl
    rw [utf8, String.toUTF8_eq_toByteArray, dif_pos (String.ofList t).isValidUTF8]
    exact congrArg some String.toList_ofList

namespace Files

variable {files : Files} {name t : Text} {fault : FileFault}

/-- Why the text of a file cannot be had. -/
inductive Unreadable (files : Files) (name : Text) : FileFault → Prop where
  | notFound (h : files name = none) : Unreadable files name .notFound
  | notText {bytes : ByteArray} (h : files name = some bytes) (hbytes : ∀ t, bytes ≠ Text.utf8 t) :
      Unreadable files name .notText

lemma text_eq_ok_iff : files.text name = .ok t ↔ files name = some t.utf8 := by
  unfold text
  cases files name with
  | none => simp
  | some bytes =>
    rw [Option.some.injEq, ← Text.ofBytes?_eq_some_iff]
    cases hbytes : Text.ofBytes? bytes <;> simp [hbytes]

lemma text_eq_error_iff : files.text name = .error fault ↔ files.Unreadable name fault := by
  constructor
  · intro h
    unfold text at h
    split at h
    next hnone =>
      cases h
      exact .notFound hnone
    next bytes hbytes =>
      split at h
      next hnone =>
        cases h
        refine .notText hbytes ?_
        rintro t rfl
        rw [Text.ofBytes?_eq_some_iff.2 rfl] at hnone
        cases hnone
      next => cases h
  · rintro (hnone | ⟨hsome, hbytes⟩)
    · rw [text, hnone]
    · have hnone : Text.ofBytes? _ = none :=
        Option.eq_none_iff_forall_ne_some.2 fun t ht => hbytes t (Text.ofBytes?_eq_some_iff.1 ht)
      rw [text, hsome]
      simp only [hnone]

end Files

/-! ## Lines -/

namespace Text

section
variable {α : Type} [DecidableEq α] {last : α} {as : List α}

/-- The first piece begins as the list does. -/
lemma exists_cutBehind_cons (last a : α) (as : List α) :
    ∃ first others, cutBehind last (a :: as) = (a :: first) :: others := by
  rw [cutBehind]
  split
  · exact ⟨_, _, rfl⟩
  · split <;> exact ⟨_, _, rfl⟩

lemma cutBehind_append_cons (h : last ∉ as) (bs : List α) :
    cutBehind last (as ++ last :: bs) = (as ++ [last]) :: cutBehind last bs := by
  induction as with
  | nil => rw [List.nil_append, cutBehind, if_pos rfl, List.nil_append]
  | cons a as ih =>
    rw [List.mem_cons, not_or] at h
    rw [List.cons_append, cutBehind, if_neg (Ne.symm h.1), ih h.2]
    rfl

lemma cutBehind_of_notMem (h : last ∉ as) (hne : as ≠ []) : cutBehind last as = [as] := by
  induction as with
  | nil => exact absurd rfl hne
  | cons a as ih =>
    rw [List.mem_cons, not_or] at h
    rw [cutBehind, if_neg (Ne.symm h.1)]
    cases as with
    | nil => rfl
    | cons b bs => rw [ih h.2 nofun]

/-- A list has a first `last`, or none. -/
lemma eq_append_cons_or_notMem (last : α) (as : List α) :
    (∃ front behind, as = front ++ last :: behind ∧ last ∉ front) ∨ last ∉ as := by
  by_cases h : last ∈ as
  · exact .inl (List.eq_append_cons_of_mem h)
  · exact .inr h

end

lemma bytes_append (s t : Text) : bytes (s ++ t) = bytes s ++ bytes t := List.flatMap_append

lemma bytes_ne_nil {t : Text} (h : t ≠ []) : t.bytes ≠ [] := by
  obtain ⟨c, t, rfl⟩ := List.exists_cons_of_ne_nil h
  rw [bytes, List.flatMap_cons]
  exact List.append_ne_nil_of_left_ne_nil String.utf8EncodeChar_ne_nil _

/-- The byte of a line feed is in no other character. -/
lemma feed_notMem_bytes {t : Text} (h : '\n' ∉ t) : (10 : UInt8) ∉ t.bytes := by
  intro hmem
  obtain ⟨c, hc, hbyte⟩ := List.mem_flatMap.1 hmem
  by_cases hascii : c.toNat < 128
  · rw [utf8EncodeChar_of_ascii hascii, List.mem_singleton, ← UInt8.toNat_inj,
      UInt8.toNat_ofNat', Nat.mod_eq_of_lt (by omega)] at hbyte
    have hfeed : '\n' = c := Char.toNat_inj.1 hbyte
    exact h (hfeed ▸ hc)
  · have hlarge := le_of_mem_utf8EncodeChar (Nat.le_of_not_lt hascii) hbyte
    exact absurd hlarge (by decide)

/-- To cut the bytes of a text behind its line feeds is to cut the text. -/
lemma cutBehind_bytes (t : Text) : cutBehind 10 t.bytes = (cutBehind '\n' t).map bytes := by
  induction hlength : t.length using Nat.strongRecOn generalizing t with
  | ind length ih =>
    rcases eq_append_cons_or_notMem '\n' t with ⟨front, behind, rfl, hfront⟩ | hfeed
    · have hshorter : behind.length < length := by
        rw [← hlength, List.length_append, List.length_cons]
        omega
      rw [bytes_append, bytes_cons_of_ascii (by decide), cutBehind_append_cons hfront]
      refine (cutBehind_append_cons (feed_notMem_bytes hfront) _).trans ?_
      rw [ih _ hshorter behind rfl, List.map_cons, bytes_append]
      rfl
    · cases t with
      | nil => rfl
      | cons c t =>
        rw [cutBehind_of_notMem (feed_notMem_bytes hfeed) (bytes_ne_nil nofun),
          cutBehind_of_notMem hfeed nofun, List.map_singleton]

lemma data_utf8 (t : Text) : t.utf8.data.toList = t.bytes := by
  rw [utf8, String.toUTF8_eq_toByteArray, String.toByteArray_ofList, List.utf8Encode,
    List.data_toByteArray]
  rfl

/-- The lines of a text are read off its bytes. -/
lemma linesOfBytes_utf8 (t : Text) : linesOfBytes t.utf8 = (cutBehind '\n' t).map some := by
  rw [linesOfBytes, data_utf8, cutBehind_bytes, List.map_map]
  refine List.map_congr_left fun l _ => ?_
  have hbytes : (⟨l.bytes.toArray⟩ : ByteArray) = l.utf8 := by
    rw [← data_utf8]
  rw [Function.comp_apply, hbytes]
  exact ofBytes?_eq_some_iff.2 rfl

end Text

end RuleTemplate
