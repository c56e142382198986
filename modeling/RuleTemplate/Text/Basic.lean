/-!
# Text

Text is a list of characters; string literals are text where text is expected.

* `byteSize`: the length of the UTF-8 form, the unit of every length and offset that is reported.
* `charsIn?`: how many characters a count of bytes covers, if it ends between two characters.
* `before`: the order of texts by their characters, which is also that of their UTF-8 bytes.
* `lower`, `sameLetters`: comparison ignoring the case of ASCII letters.
* `stripLead?`: the rest of a text behind a given beginning.
* `isBlank`: white space, which ends a placeholder and does not count when a template is looked at as
  a whole.
-/

namespace RuleTemplate

/-- Text, as its characters from left to right. -/
abbrev Text := List Char

/-- A string literal stands for its characters. -/
instance : Coe String Text := ⟨String.toList⟩

namespace Text

/-- Length of the UTF-8 form in bytes. -/
def byteSize : Text → Nat
  | [] => 0
  | c :: t => c.utf8Size + byteSize t

@[simp] theorem byteSize_nil : byteSize [] = 0 := rfl

@[simp] theorem byteSize_cons (c : Char) (t : Text) :
    byteSize (c :: t) = c.utf8Size + byteSize t := rfl

@[simp] theorem byteSize_append (s t : Text) : byteSize (s ++ t) = byteSize s + byteSize t := by
  induction s with
  | nil => simp
  | cons c s ih => simp [ih, Nat.add_assoc]

/-- Number of characters in the first `n` bytes. There is none when the text is shorter than `n`
bytes or when byte `n` lies inside a character. -/
def charsIn? : Nat → Text → Option Nat
  | 0, _ => some 0
  | _ + 1, [] => none
  | n + 1, c :: t =>
    if c.utf8Size ≤ n + 1 then (charsIn? (n + 1 - c.utf8Size) t).map (· + 1) else none

/-- What `charsIn?` counts are the characters of exactly that many bytes. -/
theorem byteSize_take_charsIn? {n k : Nat} {t : Text} (h : charsIn? n t = some k) :
    byteSize (t.take k) = n ∧ k ≤ t.length := by
  induction t generalizing n k with
  | nil =>
    cases n with
    | zero => simp [charsIn?] at h; simp [← h]
    | succ n => simp [charsIn?] at h
  | cons c t ih =>
    cases n with
    | zero => simp [charsIn?] at h; simp [← h]
    | succ n =>
      rw [charsIn?] at h
      split at h
      · next hc =>
        obtain ⟨j, hj, rfl⟩ := Option.map_eq_some_iff.1 h
        have := ih hj
        simp [this.1, this.2]
        omega
      · simp at h

/-- Whether `s` comes before `t`: by their first characters that differ, a text before those that
continue it. -/
def before : (s t : Text) → Bool
  | _, [] => false
  | [], _ :: _ => true
  | c :: s, d :: t => decide (c.toNat < d.toNat) || (decide (c = d) && before s t)

theorem before_irrefl (t : Text) : before t t = false := by
  induction t with
  | nil => rfl
  | cons c t ih => simp [before, ih]

theorem before_trans {s t u : Text} (hst : before s t = true) (htu : before t u = true) :
    before s u = true := by
  induction s generalizing t u with
  | nil => cases u with
    | nil => simp [before] at htu
    | cons e u => rfl
  | cons c s ih =>
    cases t with
    | nil => simp [before] at hst
    | cons d t =>
      cases u with
      | nil => simp [before] at htu
      | cons e u =>
        simp only [before, Bool.or_eq_true, Bool.and_eq_true, decide_eq_true_eq] at hst htu ⊢
        rcases hst with hcd | ⟨rfl, hs⟩
        · rcases htu with hde | ⟨rfl, -⟩
          · exact .inl (Nat.lt_trans hcd hde)
          · exact .inl hcd
        · rcases htu with hde | ⟨rfl, ht⟩
          · exact .inl hde
          · exact .inr ⟨rfl, ih hs ht⟩

/-- Of two different texts one comes before the other. -/
theorem before_of_not_before {s t : Text} (hne : s ≠ t) (h : before s t = false) :
    before t s = true := by
  induction s generalizing t with
  | nil => cases t with
    | nil => exact absurd rfl hne
    | cons d t => simp [before] at h
  | cons c s ih =>
    cases t with
    | nil => rfl
    | cons d t =>
      simp only [before, Bool.or_eq_false_iff, Bool.and_eq_false_iff, decide_eq_false_iff_not] at h
      simp only [before, Bool.or_eq_true, Bool.and_eq_true, decide_eq_true_eq]
      by_cases hcd : c = d
      · subst hcd
        have hst : s ≠ t := fun e => hne (by rw [e])
        exact .inr ⟨rfl, ih hst (h.2.resolve_left (by simp))⟩
      · have : c.toNat ≠ d.toNat := fun e => hcd (Char.toNat_inj.1 e)
        omega

/-- ASCII capitals replaced by their small letters, all else kept. -/
def lower (t : Text) : Text := t.map Char.toLower

/-- Whether two texts differ at most in the case of ASCII letters. -/
def sameLetters (s t : Text) : Bool := lower s == lower t

/-- The rest of `t` behind `lead`, if `t` begins with it. -/
def stripLead? : (lead t : Text) → Option Text
  | [], t => some t
  | _ :: _, [] => none
  | a :: lead, c :: t => if a = c then stripLead? lead t else none

theorem stripLead?_eq_some_iff {lead t rest : Text} :
    stripLead? lead t = some rest ↔ t = lead ++ rest := by
  induction lead generalizing t with
  | nil => simp [stripLead?, eq_comm]
  | cons a lead ih =>
    cases t with
    | nil => simp [stripLead?]
    | cons c t =>
      rw [stripLead?]
      split
      · next h => subst h; simp [ih]
      · next h => simp [Ne.symm h]

/-- The pieces between the separators; there is always one more of them than of separators. -/
def splitAt {α : Type} [DecidableEq α] (separator : α) : List α → List (List α)
  | [] => [[]]
  | c :: t =>
    if c = separator then [] :: splitAt separator t
    else match splitAt separator t with
      | [] => [[c]]
      | first :: others => (c :: first) :: others

/-- The texts in order, with `separator` between each two. -/
def joinWith (separator : Text) : List Text → Text
  | [] => []
  | [t] => t
  | t :: others => t ++ separator ++ joinWith separator others

theorem splitAt_ne_nil {α : Type} [DecidableEq α] (separator : α) (t : List α) :
    splitAt separator t ≠ [] := by
  cases t with
  | nil => simp [splitAt]
  | cons c t => rw [splitAt]; repeat' split; all_goals simp

/-- Nothing is lost between the separators. -/
theorem joinWith_splitAt (separator : Char) (t : Text) :
    joinWith [separator] (splitAt separator t) = t := by
  induction t with
  | nil => rfl
  | cons c t ih =>
    have hne := splitAt_ne_nil separator t
    rw [splitAt]
    split
    · next h =>
      subst h
      obtain ⟨first, others, he⟩ := List.exists_cons_of_ne_nil hne
      rw [he] at ih ⊢
      simp [joinWith, ih]
    · split
      · next he => exact absurd he hne
      · next first others he =>
        rw [he] at ih
        cases others with
        | nil => simpa [joinWith] using ih
        | cons second others => simpa [joinWith] using ih

/-- Between two separators there is no separator. -/
theorem not_mem_of_mem_splitAt {α : Type} [DecidableEq α] {separator : α} {t piece : List α}
    (h : piece ∈ splitAt separator t) : separator ∉ piece := by
  induction t generalizing piece with
  | nil => simp_all [splitAt]
  | cons c t ih =>
    rw [splitAt] at h
    split at h
    · rcases List.mem_cons.1 h with rfl | h
      · simp
      · exact ih h
    · next hc =>
      split at h
      · next he => exact absurd he (splitAt_ne_nil separator t)
      · next first others he =>
        rcases List.mem_cons.1 h with rfl | h
        · have : separator ∉ first := ih (by simp [he])
          simp [Ne.symm hc, this]
        · exact ih (by simp [he, h])

/-- Decimal digits of a natural number. -/
def ofNat (n : Nat) : Text := Nat.toDigits 10 n

/-- Decimal digits of an integer, behind a minus sign when it is negative. -/
def ofInt : Int → Text
  | .ofNat n => ofNat n
  | .negSucc n => '-' :: ofNat (n + 1)

/-- Decimal digits of `n`, with zeros in front up to `width` characters. -/
def padded (width n : Nat) : Text :=
  List.replicate (width - (ofNat n).length) '0' ++ ofNat n

/-- The value of a decimal digit. -/
def digit? (c : Char) : Option Nat :=
  if '0' ≤ c ∧ c ≤ '9' then some (c.toNat - '0'.toNat) else none

/-- The value of a hexadecimal digit, in either case. -/
def hexDigit? (c : Char) : Option Nat :=
  if '0' ≤ c ∧ c ≤ '9' then some (c.toNat - '0'.toNat)
  else if 'a' ≤ c ∧ c ≤ 'f' then some (c.toNat - 'a'.toNat + 10)
  else if 'A' ≤ c ∧ c ≤ 'F' then some (c.toNat - 'A'.toNat + 10)
  else none

/-- The number written by decimal digits alone; at least one digit is needed. -/
def toNat? : Text → Option Nat
  | [] => none
  | t => t.foldl (fun n c => do return 10 * (← n) + (← digit? c)) (some 0)

/-! ## White space -/

/-- First and last code points of the runs that make up the Unicode property `White_Space`. -/
def blankRuns : List (Nat × Nat) :=
  [(0x9, 0xD), (0x20, 0x20), (0x85, 0x85), (0xA0, 0xA0), (0x1680, 0x1680), (0x2000, 0x200A),
    (0x2028, 0x2029), (0x202F, 0x202F), (0x205F, 0x205F), (0x3000, 0x3000)]

/-- Whether a character is white space. -/
def isBlank (c : Char) : Bool := blankRuns.any fun run => run.1 ≤ c.toNat && c.toNat ≤ run.2

/-- A text without the white space at its beginning. -/
def trimStart (t : Text) : Text := t.dropWhile isBlank

/-- A text without the white space at both ends. -/
def trim (t : Text) : Text := (trimStart (trimStart t).reverse).reverse

end Text

end RuleTemplate
