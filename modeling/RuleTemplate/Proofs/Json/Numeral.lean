import RuleTemplate.Json.Printer
import RuleTemplate.Proofs.Number.Rounding
import RuleTemplate.Proofs.Text.Decimal

/-!
# Reading numbers character by character

A number does not show its end, so what was read of it may be judged before it is complete: at the
end of a text that was cut off, and by whoever looks at a state of the reader. `Numeral.Takes` is a
run through characters that continue a number, in which all that could be a number by itself is one
(`Numeral.Sound`). Short of an exponent this holds as long as the digits fit
(`Numeral.isSome_number?`); with an exponent the number must not be beyond the largest decimal
(`Numeral.Moderate`).

Integers are read as they are written (`Number.reads_integer`).
-/

namespace RuleTemplate.Json

open Binary64 (largestDecimal)
open Text (valueOf_append valueOf_le_append)

namespace Numeral

/-! ## What is denoted -/

variable {n : Numeral} {ds es : List Nat} {t u : Text} {m : Nat} {c : Char} {d : Nat}

/-- The digits before the exponent, as one whole number. -/
def significand (n : Numeral) : Nat := valueOf (n.whole ++ n.fraction)

/-- The exponent as it is written. -/
def signedExponent (n : Numeral) : Int :=
  if n.exponentNegative then -(valueOf n.exponent : Int) else valueOf n.exponent

/-- A significand takes all digits that fit. -/
lemma absorb_eq (h : ds.foldl (fun n d => 10 * n + d) m < 0x10000000000000000) :
    absorb m ds = (ds.foldl (fun n d => 10 * n + d) m, []) := by
  induction ds generalizing m with
  | nil => rfl
  | cons d ds ih =>
    rw [List.foldl_cons] at h ⊢
    have hle : 10 * m + d ≤ ds.foldl (fun n d => 10 * n + d) (10 * m + d) := by
      rw [Text.foldl_digits]
      exact (Nat.le_mul_of_pos_right _ (Nat.pow_pos (by decide))).trans (Nat.le_add_right ..)
    rw [absorb, if_pos (by omega), ih h]

/-- The number that is denoted, when all digits fit. -/
lemma number?_eq (h : n.significand < 0x10000000000000000) :
    n.number? = if n.fraction = [] ∧ n.exponent = [] then integer? n.negative (valueOf n.whole)
      else (Binary64.ofDecimal? n.negative n.significand
        (n.signedExponent - n.fraction.length)).map .real := by
  have hwhole : absorb 0 n.whole = (valueOf n.whole, []) :=
    absorb_eq ((valueOf_le_append n.whole n.fraction).trans_lt h)
  have hvalue : n.significand = n.fraction.foldl (fun n d => 10 * n + d) (valueOf n.whole) :=
    List.foldl_append
  have hfraction : absorb (valueOf n.whole) n.fraction = (n.significand, []) := by
    rw [hvalue] at h ⊢
    exact absorb_eq h
  have hexponent : (if n.exponentNegative
        then ((0 : Nat) : Int) - ((n.fraction.length : Int) - ((0 : Nat) : Int))
          - (valueOf n.exponent : Int)
        else ((0 : Nat) : Int) - ((n.fraction.length : Int) - ((0 : Nat) : Int))
          + (valueOf n.exponent : Int)) = n.signedExponent - n.fraction.length := by
    unfold signedExponent
    split <;> omega
  unfold number?
  simp only [hwhole, hfraction, true_and, List.length_nil, hexponent]

lemma isSome_integer? (negative : Bool) (hm : m < 0x10000000000000000) :
    (integer? negative m).isSome := by
  unfold integer?
  split
  · split
    · rfl
    · rw [Option.isSome_map]
      exact Binary64.isSome_ofDecimal?_of_nonpos hm (Int.le_refl 0)
  · rw [Number.ofNat?, dif_pos hm]
    rfl

/-- Without an exponent, digits that fit denote a number. -/
lemma isSome_number? (h : n.significand < 0x10000000000000000) (hexponent : n.exponent = []) :
    n.number?.isSome := by
  rw [number?_eq h]
  split
  · exact isSome_integer? _ ((valueOf_le_append ..).trans_lt h)
  · have hnonpos : n.signedExponent - n.fraction.length ≤ 0 := by
      have hzero : n.signedExponent = 0 := by
        unfold signedExponent
        rw [hexponent]
        split <;> rfl
      omega
    rw [Option.isSome_map]
    exact Binary64.isSome_ofDecimal?_of_nonpos h hnonpos

/-- The exponent is negative, or the digits are few and denote no more than the largest decimal. -/
def Moderate (n : Numeral) : Prop :=
  n.exponentNegative = true ∨ 0 < n.significand ∧ n.significand ≤ Nat.pow 10 17 ∧
    n.significand * Nat.pow 10 (valueOf n.exponent) ≤ largestDecimal * Nat.pow 10 n.fraction.length

/-- A number that is not beyond the largest decimal is read. -/
lemma Moderate.isSome_number? (h : n.Moderate) (hfits : n.significand < 0x10000000000000000) :
    n.number?.isSome := by
  rw [number?_eq hfits]
  split
  · exact isSome_integer? _ ((valueOf_le_append ..).trans_lt hfits)
  rw [Option.isSome_map]
  rcases h with hnegative | ⟨hpos, hdigits, hle⟩
  · apply Binary64.isSome_ofDecimal?_of_nonpos hfits
    rw [signedExponent, if_pos hnegative]
    omega
  by_cases hnonpos : n.signedExponent - n.fraction.length ≤ 0
  · exact Binary64.isSome_ofDecimal?_of_nonpos hfits hnonpos
  -- the point is moved behind all digits
  have hsigned : n.signedExponent = valueOf n.exponent := by
    unfold signedExponent at hnonpos ⊢
    split
    · next hnegative =>
      rw [if_pos hnegative] at hnonpos
      omega
    · rfl
  obtain ⟨k, hk⟩ : ∃ k, valueOf n.exponent = k + n.fraction.length :=
    ⟨valueOf n.exponent - n.fraction.length, by omega⟩
  have hexponent : n.signedExponent - n.fraction.length = (k : Int) := by omega
  rw [hexponent]
  apply Binary64.isSome_ofDecimal?_of_le hpos hdigits
  apply Nat.le_of_mul_le_mul_right _ (Binary64.pow_ten_pos n.fraction.length)
  rw [Nat.mul_assoc]
  have hpow : Nat.pow 10 k * Nat.pow 10 n.fraction.length = Nat.pow 10 (valueOf n.exponent) := by
    rw [hk]
    exact (Nat.pow_add 10 k _).symm
  rw [hpow]
  exact hle

/-- So is one with fewer digits in its exponent. -/
lemma Moderate.of_append (h : { n with exponent := ds ++ es }.Moderate) :
    { n with exponent := ds }.Moderate := by
  rcases h with hnegative | ⟨hpos, hdigits, hle⟩
  · exact .inl hnegative
  · have hpow : Nat.pow 10 (valueOf ds) ≤ Nat.pow 10 (valueOf (ds ++ es)) :=
      Binary64.pow_ten_le_pow_ten (valueOf_le_append ds es)
    exact .inr ⟨hpos, hdigits, (Nat.mul_le_mul_left _ hpow).trans hle⟩

/-! ## Reading on -/

/-- What may end here denotes a number. -/
def Sound (s : Numeral × Stage) : Prop := s.2.complete = true → s.1.number?.isSome = true

/-- A text continues a number, and what may end within it denotes a number. -/
inductive Takes : Numeral × Stage → Text → Numeral × Stage → Prop
  | nil (s : Numeral × Stage) : Takes s [] s
  | cons {s s₁ s₂ : Numeral × Stage} {c : Char} {t : Text} (hnext : extend? s.1 s.2 c = some s₁)
    (hsound : Sound s₁) (hrest : Takes s₁ t s₂) : Takes s (c :: t) s₂

variable {s s₁ s₂ : Numeral × Stage}

lemma Takes.append (h : Takes s t s₁) (h' : Takes s₁ u s₂) : Takes s (t ++ u) s₂ := by
  induction h with
  | nil => exact h'
  | cons hnext hsound _ ih => exact .cons hnext hsound (ih h')

/-- Digits are taken one by one into a part of a number, which `grow` puts into it, if there is a
number after each of them. -/
lemma takes_digits {grow : List Nat → Numeral} {stage : Stage}
    (hnext : ∀ es d c, Text.digit? c = some d →
      extend? (grow es) stage c = some (grow (es ++ [d]), stage))
    (h : t.map Text.digit? = ds.map some) (es : List Nat)
    (hsound : ∀ fs gs, fs ++ gs = es ++ ds → Sound (grow fs, stage)) :
    Takes (grow es, stage) t (grow (es ++ ds), stage) := by
  induction t generalizing ds es with
  | nil =>
    rw [List.map_nil, eq_comm, List.map_eq_nil_iff] at h
    rw [h, List.append_nil]
    exact .nil _
  | cons c t ih =>
    cases ds with
    | nil => cases h
    | cons d ds =>
      obtain ⟨hc, ht⟩ := List.cons.inj h
      have hassoc : es ++ d :: ds = es ++ [d] ++ ds := by simp
      rw [hassoc] at hsound ⊢
      exact .cons (hnext es d c hc) (hsound (es ++ [d]) ds rfl) (ih ht (es ++ [d]) hsound)

/-- Digits of the whole part. -/
lemma takes_whole (h : t.map Text.digit? = ds.map some) (n : Numeral)
    (hfraction : n.fraction = []) (hexponent : n.exponent = [])
    (hfits : valueOf (n.whole ++ ds) < 0x10000000000000000) :
    Takes (n, .whole) t ({ n with whole := n.whole ++ ds }, .whole) := by
  have hnext : ∀ es d c, Text.digit? c = some d →
      extend? { n with whole := es } .whole c = some ({ n with whole := es ++ [d] }, .whole) := by
    intro es d c hc
    simp only [extend?, hc]
  have hsound : ∀ fs gs, fs ++ gs = n.whole ++ ds → Sound ({ n with whole := fs }, .whole) := by
    intro fs gs hsplit
    have hsmall : significand { n with whole := fs } < 0x10000000000000000 := by
      rw [significand, hfraction, List.append_nil]
      rw [← hsplit] at hfits
      exact (valueOf_le_append fs gs).trans_lt hfits
    exact fun _ => isSome_number? hsmall hexponent
  exact takes_digits hnext h n.whole hsound

/-- Digits of the fraction, behind the point. -/
lemma takes_fraction (h : t.map Text.digit? = ds.map some) (hne : ds ≠ []) (n : Numeral)
    (hexponent : n.exponent = [])
    (hfits : valueOf (n.whole ++ (n.fraction ++ ds)) < 0x10000000000000000) :
    Takes (n, .point) t ({ n with fraction := n.fraction ++ ds }, .fraction) := by
  have hdigit : ∀ es d c, Text.digit? c = some d →
      fraction? { n with fraction := es } c
        = some ({ n with fraction := es ++ [d] }, .fraction) := by
    intro es d c hc
    rw [fraction?, hc]
    rfl
  have hsound : ∀ fs gs, fs ++ gs = n.fraction ++ ds →
      Sound ({ n with fraction := fs }, .fraction) := by
    intro fs gs hsplit
    have hsmall : significand { n with fraction := fs } < 0x10000000000000000 := by
      rw [← hsplit, ← List.append_assoc] at hfits
      exact (valueOf_le_append _ gs).trans_lt hfits
    exact fun _ => isSome_number? hsmall hexponent
  -- the first digit is needed, the others may follow
  obtain ⟨d, ds, rfl⟩ := List.exists_cons_of_ne_nil hne
  obtain ⟨c, t, rfl, hc, ht⟩ := List.map_eq_cons_iff.1 h
  have hassoc : n.fraction ++ d :: ds = n.fraction ++ [d] ++ ds := by simp
  rw [hassoc] at hsound ⊢
  refine .cons (hdigit n.fraction d c hc) (hsound _ ds rfl) (takes_digits ?_ ht _ hsound)
  intro es d c hc
  simp only [extend?, hdigit es d c hc]

/-- Digits of the exponent, behind its sign. -/
lemma takes_power (h : t.map Text.digit? = ds.map some) (hne : ds ≠ []) (n : Numeral)
    (hfits : n.significand < 0x10000000000000000)
    (hmoderate : { n with exponent := n.exponent ++ ds }.Moderate) :
    Takes (n, .markSign) t ({ n with exponent := n.exponent ++ ds }, .power) := by
  have hdigit : ∀ es d c, Text.digit? c = some d →
      power? { n with exponent := es } c = some ({ n with exponent := es ++ [d] }, .power) := by
    intro es d c hc
    rw [power?, hc]
    rfl
  have hsound : ∀ fs gs, fs ++ gs = n.exponent ++ ds →
      Sound ({ n with exponent := fs }, .power) := by
    intro fs gs hsplit
    rw [← hsplit] at hmoderate
    exact fun _ => hmoderate.of_append.isSome_number? hfits
  obtain ⟨d, ds, rfl⟩ := List.exists_cons_of_ne_nil hne
  obtain ⟨c, t, rfl, hc, ht⟩ := List.map_eq_cons_iff.1 h
  have hassoc : n.exponent ++ d :: ds = n.exponent ++ [d] ++ ds := by simp
  rw [hassoc] at hsound ⊢
  refine .cons (hdigit n.exponent d c hc) (hsound _ ds rfl) (takes_digits ?_ ht _ hsound)
  exact hdigit

/-! ## Whole texts -/

/-- A text is read as a number, and so is all of its beginnings that could be a number. -/
def Reads (t : Text) (m : Number) : Prop :=
  ∃ c u s₀ s, t = c :: u ∧ start? c = some s₀ ∧ Sound s₀ ∧ Takes s₀ u s ∧ s.2.complete = true ∧
    s.1.number? = some m

/-- The state behind the first digit. -/
def first (negative : Bool) (d : Nat) : Numeral × Stage :=
  ({ negative, whole := [d] }, if d = 0 then .zero else .whole)

lemma sound_first (negative : Bool) (hd : d < 0x10000000000000000) : Sound (first negative d) := by
  have hsmall : significand { negative, whole := [d] } < 0x10000000000000000 := by
    show 10 * 0 + d < _
    omega
  exact fun _ => isSome_number? hsmall rfl

/-- A sign or none. -/
def signText (negative : Bool) : Text := if negative then ['-'] else []

/-- Only zero is written as zero. -/
lemma ne_zero_of_digit? (hc : Text.digit? c = some d) (hzero : c ≠ '0') : d ≠ 0 := by
  rintro rfl
  exact hzero (Text.eq_digitChar_of_digit? hc)

lemma start?_of_digit? (hc : Text.digit? c = some d) : start? c = some (first false d) := by
  have hminus : c ≠ '-' := by
    rintro rfl
    cases hc
  unfold start?
  rw [if_neg hminus]
  by_cases hzero : c = '0'
  · cases hzero
    cases hc
    rfl
  · rw [if_neg hzero, hc, first, if_neg (ne_zero_of_digit? hc hzero)]
    rfl

lemma extend?_of_digit? (hc : Text.digit? c = some d) :
    extend? { negative := true } .minus c = some (first true d) := by
  unfold extend?
  by_cases hzero : c = '0'
  · cases hzero
    cases hc
    rfl
  · simp only [if_neg hzero, hc, first, if_neg (ne_zero_of_digit? hc hzero)]
    rfl

/-- A text that begins with a sign or none and a digit. -/
lemma reads_of_takes {negative : Bool} (hc : Text.digit? c = some d)
    (h : Takes (first negative d) t s) (hcomplete : s.2.complete = true) {m : Number}
    (hm : s.1.number? = some m) : Reads (signText negative ++ c :: t) m := by
  have hd : d < 0x10000000000000000 := (Text.toNat_of_digit? hc).2.trans (by decide)
  have hsound : Sound (first negative d) := sound_first negative hd
  cases negative with
  | false => exact ⟨c, t, _, s, rfl, start?_of_digit? hc, hsound, h, hcomplete, hm⟩
  | true =>
    exact ⟨'-', c :: t, ({ negative := true }, .minus), s, rfl, rfl, nofun,
      .cons (extend?_of_digit? hc) hsound h, hcomplete, hm⟩

/-- The whole part behind its first digit, which is no zero unless it is the only digit. -/
lemma exists_takes_whole (negative : Bool) (h : t.map Text.digit? = ds.map some)
    (hzero : d = 0 → ds = []) (hfits : valueOf (d :: ds) < 0x10000000000000000) :
    ∃ stage, (stage = .zero ∨ stage = .whole) ∧
      Takes (first negative d) t ({ negative, whole := d :: ds }, stage) := by
  -- the reader has a stage of its own for a zero at the start
  by_cases hd : d = 0
  · have hds := hzero hd
    subst hd hds
    rw [List.map_nil, List.map_eq_nil_iff] at h
    subst h
    exact ⟨.zero, .inl rfl, .nil _⟩
  · have hfirst : first negative d = ({ negative, whole := [d] }, .whole) := by
      rw [first, if_neg hd]
    rw [hfirst]
    exact ⟨.whole, .inr rfl, takes_whole h { negative, whole := [d] } rfl rfl hfits⟩

/-! ## What is read -/

/-- Continues a number by all characters of a text. -/
def extendAll : Numeral × Stage → Text → Option (Numeral × Stage)
  | s, [] => some s
  | s, c :: t => (extend? s.1 s.2 c).bind fun s => extendAll s t

/-- The number that a text is, as a whole. -/
def readText? : Text → Option Number
  | [] => none
  | c :: t => ((start? c).bind fun s => extendAll s t).bind fun s =>
    if s.2.complete then s.1.number? else none

lemma Takes.extendAll_eq (h : Takes s t s₁) : extendAll s t = some s₁ := by
  induction h with
  | nil => rfl
  | cons hnext _ _ ih => rw [extendAll, hnext, Option.bind_some, ih]

lemma Reads.readText?_eq {m : Number} (h : Reads t m) : readText? t = some m := by
  obtain ⟨c, u, s₀, s, rfl, hstart, -, htakes, hcomplete, hm⟩ := h
  rw [readText?, hstart, Option.bind_some, htakes.extendAll_eq, Option.bind_some, if_pos hcomplete,
    hm]

end Numeral

namespace Number

open Numeral

/-- What a number is read as, when it is printed. -/
def reread (n : Number) : Number := (readText? n.print).getD n

lemma reread_eq {n m : Number} (h : Reads n.print m) : n.reread = m := by
  rw [reread, h.readText?_eq, Option.getD_some]

/-! ## Integers -/

/-- A natural number has a first digit, which is no zero unless it is the only digit. -/
lemma exists_cons_ofNat (n : Nat) :
    ∃ c t d ds, Text.ofNat n = c :: t ∧ Text.digit? c = some d ∧ t.map Text.digit? = ds.map some
      ∧ valueOf (d :: ds) = n ∧ (d = 0 → ds = []) := by
  obtain ⟨ds, hspell, hvalue, hne, hzero⟩ := Text.exists_digits n
  obtain ⟨d, ds, rfl⟩ := List.exists_cons_of_ne_nil hne
  obtain ⟨c, t, hct⟩ := List.exists_cons_of_ne_nil (Text.ofNat_ne_nil n)
  rw [hct] at hspell
  obtain ⟨hc, ht⟩ := List.cons.inj hspell
  refine ⟨c, t, d, ds, hct, hc, ht, hvalue, fun hd => ?_⟩
  exact (List.cons.inj (hzero (by rw [hd]; rfl))).2

/-- A number in digits is read, behind a sign or none. -/
lemma reads_ofNat (negative : Bool) {n : Nat} (hn : n < 0x10000000000000000) {m : Number}
    (hm : integer? negative n = some m) : Reads (signText negative ++ Text.ofNat n) m := by
  obtain ⟨c, t, d, ds, htext, hc, ht, hvalue, hzero⟩ := exists_cons_ofNat n
  have hfits : significand { negative, whole := d :: ds } < 0x10000000000000000 := by
    rw [significand, List.append_nil, hvalue]
    exact hn
  have hnumber : number? { negative, whole := d :: ds } = some m := by
    rw [number?_eq hfits, if_pos ⟨rfl, rfl⟩, hvalue, hm]
  obtain ⟨stage, hstage, htakes⟩ := exists_takes_whole negative ht hzero (hvalue.trans_lt hn)
  have hcomplete : stage.complete = true := by
    rcases hstage with rfl | rfl <;> rfl
  rw [htext]
  exact reads_of_takes hc htakes hcomplete hnumber

/-- Integers are read as they are written. -/
lemma reads_integer (i : Int) (h : -0x8000000000000000 ≤ i ∧ i < 0x10000000000000000) :
    Reads (Number.integer i h).print (.integer i h) := by
  obtain ⟨hlow, hhigh⟩ := h
  rw [print]
  cases i with
  | ofNat n =>
    have hn : n < 0x10000000000000000 := by
      rw [Int.ofNat_eq_natCast] at hhigh
      omega
    have hinteger : integer? false n = some (.integer n ⟨hlow, hhigh⟩) := by
      simp [integer?, Number.ofNat?, hn]
    exact reads_ofNat false hn hinteger
  | negSucc k =>
    -- the least integer has a magnitude that no positive one has
    have hk : k + 1 ≤ 0x8000000000000000 := by omega
    have hinteger : integer? true (k + 1) = some (.integer (.negSucc k) ⟨hlow, hhigh⟩) := by
      rw [integer?, if_pos rfl, dif_pos ⟨Nat.succ_pos k, hk⟩]
      rfl
    exact reads_ofNat true (by omega) hinteger

lemma reread_integer (i : Int) (h : -0x8000000000000000 ≤ i ∧ i < 0x10000000000000000) :
    (Number.integer i h).reread = .integer i h := reread_eq (reads_integer i h)

end Number
end RuleTemplate.Json
