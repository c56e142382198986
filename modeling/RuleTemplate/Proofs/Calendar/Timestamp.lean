import RuleTemplate.Calendar.Reader
import RuleTemplate.Proofs.Results
import RuleTemplate.Proofs.Text.Blank
import RuleTemplate.Proofs.Text.Decimal

/-!
# Moments are read as they are written

The text of a moment has its numbers in as many digits as the reader takes at most, or before a
character that is no digit; so each number is read back, whatever follows (`digits_append`). The
fraction of the second has three, six or nine digits, and the zeros that were left out are put back
(`fraction_fractionText`). With the offset `Z` the moment that was read is not moved.
-/

namespace RuleTemplate

open Results

namespace Text

/-- A digit is no white space. -/
lemma isBlank_of_isSome_digit? {c : Char} (h : (digit? c).isSome) : isBlank c = false := by
  have hrange : 48 ≤ c.toNat ∧ c.toNat ≤ 57 := by
    rw [digit?] at h
    split at h
    · next hc => exact hc
    · cases h
  simp only [isBlank, blankRuns, List.any_cons, List.any_nil, Bool.or_false, Bool.or_eq_false_iff,
    Bool.and_eq_false_iff, decide_eq_false_iff_not]
  omega

end Text

namespace Timestamp

variable {t rest : Text}

/-- What follows a number does not begin with a digit. -/
def EndsNumber (t : Text) : Prop := ∀ c ∈ t.head?, Text.digit? c = none

lemma endsNumber_cons {c : Char} (h : Text.digit? c = none) (t : Text) : EndsNumber (c :: t) := by
  intro d hd
  cases hd
  exact h

lemma takeWhile_of_endsNumber (h : EndsNumber t) :
    t.takeWhile (fun c => (Text.digit? c).isSome) = [] := by
  cases t with
  | nil => rfl
  | cons c t => exact List.takeWhile_cons_of_neg (by simp [h c rfl])

/-- Digits are read as the number that they denote, when there are no more of them than are taken,
and either as many or nothing of the kind behind them. -/
lemma digits_append {most n : Nat} (hne : t ≠ []) (hall : ∀ c ∈ t, (Text.digit? c).isSome)
    (hvalue : Text.toNat? t = some n) (hn : n < 0x8000000000000000) (hmost : t.length ≤ most)
    (hends : t.length = most ∨ EndsNumber rest) : digits most (t ++ rest) = .ok (n, rest) := by
  have hrest : (rest.take (most - t.length)).takeWhile (fun c => (Text.digit? c).isSome) = [] := by
    rcases hends with heq | hends
    · rw [heq, Nat.sub_self, List.take_zero, List.takeWhile_nil]
    · refine takeWhile_of_endsNumber fun c hc => hends c ?_
      cases rest with
      | nil => simp at hc
      | cons d rest =>
        cases hk : most - t.length with
        | zero => rw [hk, List.take_zero] at hc; cases hc
        | succ k => rw [hk, List.take_succ_cons] at hc; exact hc
  have hrun : ((t ++ rest).take most).takeWhile (fun c => (Text.digit? c).isSome) = t := by
    rw [List.take_append, List.take_of_length_le hmost, List.takeWhile_append_of_pos hall, hrest,
      List.append_nil]
  obtain ⟨c, u, rfl⟩ := List.exists_cons_of_ne_nil hne
  have hc : ¬ (Text.digit? c).isNone = true := by
    rw [Option.isNone_iff_eq_none]
    intro hnone
    have := hall c (List.mem_cons_self ..)
    rw [hnone] at this
    cases this
  have hdrop : (c :: (u ++ rest)).drop (c :: u).length = rest := by
    rw [← List.cons_append]
    exact List.drop_left
  rw [List.cons_append] at hrun ⊢
  rw [digits, if_neg hc]
  simp only [hrun, hvalue, Option.getD_some, if_pos hn, hdrop]
  rfl

/-- A padded number is read, when it has as many digits as are taken. -/
lemma digits_padded {width n : Nat} (hwidth : 0 < width) (hn : n < Nat.pow 10 width)
    (hbound : n < 0x8000000000000000) (rest : Text) :
    digits width (Text.padded width n ++ rest) = .ok (n, rest) := by
  have hlength := Text.length_padded hn hwidth
  exact digits_append (Text.padded_ne_nil width n)
    (fun c hc => Text.isSome_digit?_of_mem_padded hc) (Text.toNat?_padded width n) hbound
    hlength.le (.inl hlength)

lemma padded_append_ne_cons {width n : Nat} {c : Char} {u : Text} (h : Text.digit? c = none) :
    Text.padded width n ++ rest ≠ c :: u := by
  intro heq
  obtain ⟨d, v, hdv⟩ := List.exists_cons_of_ne_nil (Text.padded_ne_nil width n)
  have hd : (Text.digit? d).isSome := Text.isSome_digit?_of_mem_padded (hdv ▸ List.mem_cons_self ..)
  rw [hdv] at heq
  rw [(List.cons.inj heq).1, h] at hd
  cases hd

/-- White space is looked for in front of a number, and there is none. -/
lemma trimStart_padded (width n : Nat) (rest : Text) :
    Text.trimStart (Text.padded width n ++ rest) = Text.padded width n ++ rest := by
  have hall : ∀ c ∈ Text.padded width n, (Text.digit? c).isSome :=
    fun c hc => Text.isSome_digit?_of_mem_padded hc
  obtain ⟨c, u, hcu⟩ := List.exists_cons_of_ne_nil (Text.padded_ne_nil width n)
  rw [hcu] at hall ⊢
  exact Text.trimStart_cons (Text.isBlank_of_isSome_digit? (hall c (List.mem_cons_self ..))) _

/-- A number of two digits within bounds. -/
lemma number_padded {low high n : Nat} (hlow : low ≤ n) (hhigh : n ≤ high) (hn : n < 100)
    (rest : Text) : number low high (Text.padded 2 n ++ rest) = .ok (n, rest) := by
  rw [number, trimStart_padded, digits_padded (by decide) hn (by omega)]
  exact if_pos ⟨hlow, hhigh⟩

lemma mark_cons {c : Char} (h : Text.isBlank c = false) (rest : Text) :
    mark c (c :: rest) = .ok rest := by
  rw [mark, Text.trimStart_cons h]
  exact if_pos rfl

/-! ## The parts of a moment -/

/-- A year is read, whatever its size and its sign, before a hyphen. -/
lemma yearNumber_yearText {year : Int} (hlow : -262143 ≤ year) (hhigh : year ≤ 262142)
    (rest : Text) : yearNumber (Date.yearText year ++ '-' :: rest) = .ok (year, '-' :: rest) := by
  have hends : EndsNumber ('-' :: rest) := endsNumber_cons (by decide) rest
  have hsigned : digits (Text.padded 4 year.natAbs ++ '-' :: rest).length
      (Text.padded 4 year.natAbs ++ '-' :: rest) = .ok (year.natAbs, '-' :: rest) :=
    digits_append (Text.padded_ne_nil 4 _) (fun c hc => Text.isSome_digit?_of_mem_padded hc)
      (Text.toNat?_padded 4 _) (by omega) (by simp) (.inr hends)
  have hbounds : -0x80000000 ≤ year ∧ year < 0x80000000 := by omega
  -- a sign takes all digits that follow, and without one there are four
  rw [Date.yearText]
  split
  · next hnegative =>
    have habs : -(year.natAbs : Int) = year := by omega
    rw [List.cons_append, yearNumber, Text.trimStart_cons (by decide)]
    simp only [hsigned, ok_bind, pure_eq_ok, habs]
    exact if_pos hbounds
  · split
    · next hlarge =>
      have habs : (year.natAbs : Int) = year := by omega
      rw [List.cons_append, yearNumber, Text.trimStart_cons (by decide)]
      simp only [hsigned, ok_bind, pure_eq_ok, habs]
      exact if_pos hbounds
    · next hsmall =>
      have habs : (year.natAbs : Int) = year := by omega
      have hten : year.natAbs < Nat.pow 10 4 := by
        show year.natAbs < 10000
        omega
      have hfour := digits_padded (by decide) hten (by omega) ('-' :: rest)
      rw [yearNumber, trimStart_padded]
      simp only
      split
      · next heq => exact absurd heq (padded_append_ne_cons (by decide))
      · next heq => exact absurd heq (padded_append_ne_cons (by decide))
      · simp only [hfour, ok_bind, pure_eq_ok, habs]
        exact if_pos hbounds

/-- The fraction of a second is read, and the zeros that were left out are put back. -/
lemma fraction_fractionText {n : Nat} (hn : n < 1000000000) :
    fraction (fractionText n ++ ['Z']) = .ok (n, ['Z']) := by
  have hpart : ∀ width k, 0 < width → width ≤ 9 → k < Nat.pow 10 width →
      fraction ('.' :: (Text.padded width k ++ ['Z']))
        = .ok (k * Nat.pow 10 (9 - width), ['Z']) := by
    intro width k hwidth hnine hk
    have hlength := Text.length_padded hk hwidth
    have hbound : k < 0x8000000000000000 :=
      Nat.lt_of_lt_of_le hk ((Nat.pow_le_pow_right (by decide) hnine).trans (by decide))
    have hdigits : digits 9 (Text.padded width k ++ ['Z']) = .ok (k, ['Z']) :=
      digits_append (Text.padded_ne_nil width k) (fun c hc => Text.isSome_digit?_of_mem_padded hc)
        (Text.toNat?_padded width k) hbound (by omega) (.inr (endsNumber_cons (by decide) []))
    have hcount : (Text.padded width k ++ ['Z']).length - ['Z'].length = width := by
      rw [List.length_append, Nat.add_sub_cancel, hlength]
    rw [fraction, hdigits]
    -- the reader counts the digits by what they left of the text
    show Except.ok (k * Nat.pow 10 (9 - ((Text.padded width k ++ ['Z']).length - ['Z'].length)), _)
      = _
    rw [hcount]
    rfl
  rw [fractionText]
  split
  · next hzero => subst hzero; rfl
  · split
    · next hmod =>
      rw [List.cons_append, hpart 3 _ (by decide) (by decide) (by show n / 1000000 < 1000; omega)]
      show Except.ok (n / 1000000 * 1000000, _) = _
      rw [Nat.div_mul_cancel (Nat.dvd_of_mod_eq_zero hmod)]
    · split
      · next hmod =>
        rw [List.cons_append, hpart 6 _ (by decide) (by decide) (by show n / 1000 < 1000000; omega)]
        show Except.ok (n / 1000 * 1000, _) = _
        rw [Nat.div_mul_cancel (Nat.dvd_of_mod_eq_zero hmod)]
      · rw [List.cons_append, hpart 9 _ (by decide) (by decide) hn]
        show Except.ok (n * 1, _) = _
        rw [Nat.mul_one]

/-- A time that is not ahead of universal time is not moved. -/
lemma ofLocal?_zero (t : Timestamp) : ofLocal? t 0 = some t := by
  obtain ⟨date, hour, minute, second, nanosecond, hvalid⟩ := t
  have hdate : ¬ ((hour : Int) * 60 + minute - 0 < 0) := by omega
  have hday : ¬ ((1440 : Int) ≤ hour * 60 + minute - 0) := by omega
  have hhour : (((hour : Int) * 60 + minute - 0) % 1440).toNat / 60 = hour := by omega
  have hminute : (((hour : Int) * 60 + minute - 0) % 1440).toNat % 60 = minute := by omega
  simp only [ofLocal?, if_neg hdate, if_neg hday, Option.map_some, hhour, hminute]

/-- No month has more than 31 days. -/
lemma bounds_of_isDate {year : Int} {month day : Nat} (h : isDate year month day = true) :
    -262143 ≤ year ∧ year ≤ 262142 ∧ 1 ≤ month ∧ month ≤ 12 ∧ 1 ≤ day ∧ day ≤ 31 := by
  simp only [isDate, Bool.and_eq_true, decide_eq_true_eq] at h
  have hdays : daysInMonth year month ≤ 31 := by
    unfold daysInMonth
    repeat' split
    all_goals omega
  omega

/-- A moment is read as it is written. -/
theorem read_text (t : Timestamp) : read t.text = .ok t := by
  obtain ⟨⟨year, month, day, hday⟩, hour, minute, second, nanosecond, hvalid⟩ := t
  obtain ⟨hlow, hhigh, hmonth, hmonth', hfirst, hlast⟩ := bounds_of_isDate hday
  have htext : text ⟨⟨year, month, day, hday⟩, hour, minute, second, nanosecond, hvalid⟩
      = Date.yearText year ++ '-' :: (Text.padded 2 month ++ '-' :: (Text.padded 2 day
        ++ 'T' :: (Text.padded 2 hour ++ ':' :: (Text.padded 2 minute
        ++ ':' :: (Text.padded 2 second ++ (fractionText nanosecond ++ ['Z'])))))) := by
    simp [text, stem, Date.text]
  -- each part ends before the mark behind it, so the parts are read one after the other
  have hhyphen : Text.isBlank '-' = false := by decide
  have hcolon : Text.isBlank ':' = false := by decide
  have hoffset : offset (Text.trimStart ['Z']) = .ok (0, []) := by decide
  have hdate : Date.ofNumbers? year month day = some ⟨year, month, day, hday⟩ := dif_pos hday
  have htrim : Text.trimStart [] = [] := rfl
  rw [htext, read]
  simp only [yearNumber_yearText hlow hhigh, ok_bind, pure_eq_ok, mark_cons hhyphen,
    mark_cons hcolon, number_padded hmonth hmonth' (by omega),
    number_padded hfirst hlast (by omega), true_or, if_true,
    number_padded (Nat.zero_le hour) (by omega : hour ≤ 23) (by omega),
    number_padded (Nat.zero_le minute) (by omega : minute ≤ 59) (by omega),
    number_padded (Nat.zero_le second) (by omega : second ≤ 60) (by omega),
    fraction_fractionText (by omega : nanosecond < 1000000000), hoffset, htrim, ne_eq,
    not_true_eq_false, if_false, hdate, dif_pos hvalid, Int.natAbs_zero, ofLocal?_zero]
  rfl

end Timestamp
end RuleTemplate
