import RuleTemplate.Json.Reader
import RuleTemplate.Proofs.Json.Basic
import RuleTemplate.Proofs.Json.Real
import RuleTemplate.Proofs.Results

/-!
# The reader goes through what is printed

`Reader.Run` takes a reader through a text and keeps a property in all states on the way. The
printed form of a value leads to a state in which the value is complete (`Reader.Closes`), and until
then the reader stays above the lists and objects that were open before, in states that the end of
the text would not make malformed (`Reader.prints`). So the text of a value is read as the value
(`readWithin_print`), but for each binary64 in it, which is read as its decimal is.

Only a number does not show its end: it ends with the character behind it, or with the text.
-/

namespace RuleTemplate.Json

/-! ## What is read -/

mutual

/-- The value that is read from the printed form of a value. -/
def reread : Json → Json
  | .number n => .number n.reread
  | .list items => .list (rereadItems items)
  | .object members => .object (rereadMembers members)
  | v => v

/-- The items that are read. -/
def rereadItems : List Json → List Json
  | [] => []
  | v :: items => reread v :: rereadItems items

/-- The members that are read. -/
def rereadMembers : List (Text × Json) → List (Text × Json)
  | [] => []
  | (k, v) :: members => (k, reread v) :: rereadMembers members

end

lemma rereadItems_eq_map (items : List Json) : rereadItems items = items.map reread := by
  induction items with
  | nil => rfl
  | cons v items ih => rw [rereadItems, ih, List.map_cons]

lemma rereadMembers_eq_map (members : Members) :
    rereadMembers members = members.map fun m => (m.1, m.2.reread) := by
  induction members with
  | nil => rfl
  | cons m members ih => rw [rereadMembers, ih, List.map_cons]

/-- A value is read as it is, when its numbers are. -/
lemma reread_eq_self {v : Json} (h : ∀ n ∈ v.numbers, n.reread = n) : v.reread = v := by
  induction v using Json.induct with
  | number n => rw [reread, h n (List.mem_singleton.2 rfl)]
  | list items ih =>
    have hitems : items.map reread = items.map id := List.map_congr_left fun v hv =>
      ih v hv fun n hn => h n (mem_numbersItems.2 ⟨v, hv, hn⟩)
    rw [reread, rereadItems_eq_map, hitems, List.map_id]
  | object members ih =>
    have hmembers : members.map (fun m => (m.1, m.2.reread)) = members.map id :=
      List.map_congr_left fun m hm =>
        Prod.ext rfl (ih m hm fun n hn => h n (mem_numbersMembers.2 ⟨m, hm, hn⟩))
    rw [reread, rereadMembers_eq_map, hmembers, List.map_id]
  | _ => rfl

/-- The end of the text would not make the state malformed: what may be a number is one. -/
def Phase.Sound : Phase → Prop
  | .number numeral stage => Numeral.Sound (numeral, stage)
  | _ => True

namespace Reader

variable {limit : Nat} {P : Reader → Prop} {stack : List Frame}

/-- Reading a text leads from one state to another, and all states on the way have the property. -/
inductive Run (limit : Nat) (P : Reader → Prop) : Reader → Text → Reader → Prop
  | nil (r : Reader) : Run limit P r [] r
  | cons {r r₁ r₂ r₃ : Reader} {c : Char} {t : Text} (hsettle : settle r c = .ok r₁) (h₁ : P r₁)
    (hadvance : advance limit r₁ c = .ok r₂) (h₂ : P r₂) (hrun : Run limit P r₂ t r₃) :
    Run limit P r (c :: t) r₃

namespace Run

variable {r r' r'' : Reader} {s t : Text} {c : Char}

lemma append (h : Run limit P r s r') (h' : Run limit P r' t r'') :
    Run limit P r (s ++ t) r'' := by
  induction h with
  | nil => exact h'
  | cons hsettle h₁ hadvance h₂ _ ih => exact .cons hsettle h₁ hadvance h₂ (ih h')

/-- One character behind a text. -/
lemma snoc (h : Run limit P r s r') {r₁ : Reader} (hsettle : settle r' c = .ok r₁) (h₁ : P r₁)
    (hadvance : advance limit r₁ c = .ok r'') (h₂ : P r'') : Run limit P r (s ++ [c]) r'' :=
  h.append (.cons hsettle h₁ hadvance h₂ (.nil _))

/-- The property holds at the end. -/
lemma holds (h : Run limit P r t r') (hr : P r) : P r' := by
  induction h with
  | nil => exact hr
  | cons _ _ _ h₂ _ ih => exact ih h₂

/-- A run through a text that is cut anywhere is one up to the cut and one from there. -/
lemma split (h : Run limit P r (s ++ t) r') :
    ∃ r'', Run limit P r s r'' ∧ Run limit P r'' t r' := by
  induction s generalizing r with
  | nil => exact ⟨r, .nil r, h⟩
  | cons c s ih =>
    cases h with
    | cons hsettle h₁ hadvance h₂ hrun =>
      obtain ⟨r'', hs, ht⟩ := ih hrun
      exact ⟨r'', .cons hsettle h₁ hadvance h₂ hs, ht⟩

end Run

/-! ## Words -/

/-- The rest of a word is taken character by character. -/
lemma run_word {v : Json} (hword : ∀ w, P ⟨stack, .word w v⟩) (hdone : P ⟨stack, .done v⟩)
    (c : Char) (w : Text) : Run limit P ⟨stack, .word (c :: w) v⟩ (c :: w) ⟨stack, .done v⟩ := by
  induction w generalizing c with
  | nil => exact .cons rfl (hword _) (by simp [advance]) hdone (.nil _)
  | cons d w ih => exact .cons rfl (hword _) (by simp [advance]) (hword _) (ih d)

/-! ## Numbers -/

/-- The characters of a number are taken as long as they continue it. -/
lemma run_number {s s' : Numeral × Numeral.Stage} {t : Text} (h : Numeral.Takes s t s')
    (hs : Numeral.Sound s)
    (hnumber : ∀ n stage, Numeral.Sound (n, stage) → P ⟨stack, .number n stage⟩) :
    Run limit P ⟨stack, .number s.1 s.2⟩ t ⟨stack, .number s'.1 s'.2⟩ := by
  -- a character that continues the number keeps `settle` from ending it
  induction h with
  | nil => exact .nil _
  | @cons s s₁ s₂ c t hnext hsound _ ih =>
    have hsettle : settle ⟨stack, .number s.1 s.2⟩ c = .ok ⟨stack, .number s.1 s.2⟩ := by
      simp only [settle, hnext]
    have hadvance : advance limit ⟨stack, .number s.1 s.2⟩ c
        = .ok ⟨stack, .number s₁.1 s₁.2⟩ := by
      simp only [advance, hnext]
    exact .cons hsettle (hnumber _ _ hs) hadvance (hnumber _ _ hsound) (ih hsound)

/-! ## Strings -/

variable {role : Role} {written written' : Text} {escape escape' : Escape}

/-- A character inside a string that does not end it. -/
lemma run_inString (hstring : ∀ w e, P ⟨stack, .string role w e⟩) {c : Char} {t : Text} {r : Reader}
    (hend : escape = .none → c ≠ '"') (hin : inString written escape c = .ok (written', escape'))
    (hrun : Run limit P ⟨stack, .string role written' escape'⟩ t r) :
    Run limit P ⟨stack, .string role written escape⟩ (c :: t) r := by
  have hadvance : advance limit ⟨stack, .string role written escape⟩ c
      = .ok ⟨stack, .string role written' escape'⟩ := by
    cases escape with
    | none => simp only [advance, if_neg (hend rfl), hin]; rfl
    | _ => simp only [advance, hin]; rfl
  exact .cons rfl (hstring _ _) hadvance (hstring _ _) hrun

/-- A control character is numbered by four digits. -/
lemma hexValue?_control : ∀ n < 0x20,
    hexValue? ['0', '0', hexDigit (n / 16), hexDigit n] = some n
      ∧ Text.byteSize ['0', '0', hexDigit (n / 16)] < 4
      ∧ ¬ Text.byteSize ['0', '0', hexDigit (n / 16), hexDigit n] < 4 := by decide

/-- What is printed for a character is read as that character. -/
lemma run_printChar (hstring : ∀ w e, P ⟨stack, .string role w e⟩) (written : Text) (c : Char) :
    Run limit P ⟨stack, .string role written .none⟩ (printChar c)
      ⟨stack, .string role (c :: written) .none⟩ := by
  have hescape : ∀ letter, escaped? letter = some c → letter ≠ 'u' →
      Run limit P ⟨stack, .string role written .none⟩ ['\\', letter]
        ⟨stack, .string role (c :: written) .none⟩ := by
    intro letter hletter hne
    have hin : inString written .backslash letter = .ok (c :: written, .none) := by
      simp only [inString, if_neg hne, hletter]
    exact run_inString hstring (fun _ => by decide) rfl (run_inString hstring nofun hin (.nil _))
  unfold printChar
  -- seven characters have an escape of their own; the other controls are numbered
  split
  · next h => exact hescape '"' (by rw [h]; rfl) (by decide)
  split
  · next h => exact hescape '\\' (by rw [h]; rfl) (by decide)
  split
  · next h => exact hescape 'b' (by rw [h]; rfl) (by decide)
  split
  · next h => exact hescape 't' (by rw [h]; rfl) (by decide)
  split
  · next h => exact hescape 'n' (by rw [h]; rfl) (by decide)
  split
  · next h => exact hescape 'f' (by rw [h]; rfl) (by decide)
  split
  · next h => exact hescape 'r' (by rw [h]; rfl) (by decide)
  split
  · next hcontrol =>
    obtain ⟨hvalue, hthree, hfour⟩ := hexValue?_control c.toNat hcontrol
    -- two zeros and two digits; only the last one makes four bytes
    have hthird : inString written (.hex none ['0', '0']) (hexDigit (c.toNat / 16))
        = .ok (written, .hex none ['0', '0', hexDigit (c.toNat / 16)]) := if_pos hthree
    have hlast : inString written (.hex none ['0', '0', hexDigit (c.toNat / 16)]) (hexDigit c.toNat)
        = .ok (c :: written, .none) := by
      have hlow : ¬ (0xDC00 ≤ c.toNat ∧ c.toNat ≤ 0xDFFF) := by omega
      have hhigh : ¬ (0xD800 ≤ c.toNat ∧ c.toNat ≤ 0xDBFF) := by omega
      refine (if_neg hfour).trans ?_
      show numbered none ['0', '0', hexDigit (c.toNat / 16), hexDigit c.toNat] written = _
      simp only [numbered, hvalue, if_neg hlow, if_neg hhigh, Char.ofNat_toNat]
    show Run limit P _ ['\\', 'u', '0', '0', hexDigit (c.toNat / 16), hexDigit c.toNat] _
    exact run_inString hstring (fun _ => by decide) rfl <| run_inString hstring nofun rfl <|
      run_inString hstring nofun rfl <| run_inString hstring nofun rfl <|
      run_inString hstring nofun hthird <| run_inString hstring nofun hlast (.nil _)
  · next hquote hbackslash _ _ _ _ _ hcontrol =>
    have hin : inString written .none c = .ok (c :: written, .none) := by
      simp only [inString, if_neg hbackslash, if_neg hcontrol]
    exact run_inString hstring (fun _ => hquote) hin (.nil _)

/-- What is printed for the characters of a string is read as those characters. -/
lemma run_flatMap_printChar (hstring : ∀ w e, P ⟨stack, .string role w e⟩) (written t : Text) :
    Run limit P ⟨stack, .string role written .none⟩ (t.flatMap printChar)
      ⟨stack, .string role (t.reverse ++ written) .none⟩ := by
  induction t generalizing written with
  | nil => exact .nil _
  | cons c t ih =>
    rw [List.flatMap_cons, List.reverse_cons, List.append_assoc]
    exact (run_printChar hstring written c).append (ih (c :: written))

/-! ## Values -/

/-- The reader stands behind a value: it has it already, or the value is a number that may end. -/
def Closes (r : Reader) (stack : List Frame) (v : Json) : Prop :=
  r = ⟨stack, .done v⟩ ∨ ∃ n numeral stage, v = .number n ∧ r = ⟨stack, .number numeral stage⟩
    ∧ stage.complete = true ∧ numeral.number? = some n

variable {v : Json} {r : Reader} {c : Char}

/-- A number that may end is not continued by what is no part of a number. -/
lemma extend?_eq_none {stage : Numeral.Stage} (n : Numeral) (hstage : stage.complete = true)
    (hdigit : Text.digit? c = none) (hpoint : c ≠ '.') (hmark : ¬ (c = 'e' ∨ c = 'E')) :
    Numeral.extend? n stage c = none := by
  have hafter : Numeral.afterWhole? n c = none := by
    rw [Numeral.afterWhole?, if_neg hpoint, if_neg hmark]
  cases stage with
  | zero => exact hafter
  | whole => simp only [Numeral.extend?, hdigit, hafter]
  | fraction =>
    simp only [Numeral.extend?, Numeral.fraction?, hdigit, Option.map_none, if_neg hmark]
  | power => simp only [Numeral.extend?, Numeral.power?, hdigit, Option.map_none]
  | _ => cases hstage

/-- What may follow a value in a list or an object shows that the value is complete. -/
lemma Closes.settle (h : Closes r stack v) (hc : c = ',' ∨ c = ']' ∨ c = '\x7d') :
    r.settle c = .ok ⟨stack, .done v⟩ := by
  rcases h with rfl | ⟨n, numeral, stage, rfl, rfl, hcomplete, hnumber⟩
  · rfl
  -- a number is still open, and none of the three characters continues it
  · have hnone : numeral.extend? stage c = none := by
      rcases hc with rfl | rfl | rfl <;>
        exact extend?_eq_none numeral hcomplete (by decide) (by decide) (by decide)
    have hends : stage.endsBefore c = true := by
      rcases hc with rfl | rfl | rfl <;>
        simp [Numeral.Stage.endsBefore, hcomplete, show Text.digit? ',' = none by decide,
          show Text.digit? ']' = none by decide, show Text.digit? '\x7d' = none by decide]
    simp only [Reader.settle, hnone, if_pos hends, hnumber]

/-- The end of the text shows it as well. -/
lemma Closes.close (h : Closes r stack v) : r.close = .ok ⟨stack, .done v⟩ := by
  rcases h with rfl | ⟨n, numeral, stage, rfl, rfl, hcomplete, hnumber⟩
  · rfl
  · simp only [Reader.close, if_pos hcomplete, hnumber]

/-- The end of the text is not malformed in a sound state: the text is too short, or the state is
one in which no number is open. -/
lemma close_of_sound {r : Reader} (h : r.phase.Sound) : r.close = .error .ended ∨
    ∃ phase, r.close = .ok ⟨r.stack, phase⟩ ∧ close ⟨r.stack, phase⟩ = .ok ⟨r.stack, phase⟩ := by
  obtain ⟨stack, phase⟩ := r
  cases phase with
  | number numeral stage =>
    by_cases hcomplete : stage.complete = true
    · obtain ⟨n, hn⟩ := Option.isSome_iff_exists.1 (h hcomplete)
      refine .inr ⟨.done (.number n), ?_, rfl⟩
      simp only [close, if_pos hcomplete, hn]
    · exact .inl (by simp only [close, if_neg hcomplete])
  | _ => exact .inr ⟨_, rfl, rfl⟩

/-- A list or object that is open is not complete at the end of the text. -/
lemma finish_of_stack_ne_nil {r : Reader} (hclose : r.close = .ok r) (hstack : r.stack ≠ []) :
    r.finish = .error .ended := by
  obtain ⟨stack, phase⟩ := r
  rw [finish, hclose, Results.ok_bind]
  cases stack with
  | nil => exact absurd rfl hstack
  | cons frame stack => rfl

/-- The reader waits for a value over the given lists and objects. -/
def Starts (limit : Nat) (r : Reader) (stack : List Frame) : Prop :=
  ∀ c, isSpace c = false → c ≠ ']' →
    settle r c = .ok r ∧ advance limit r c = beginValue limit stack c

lemma starts_value : Starts limit ⟨stack, .value⟩ stack := fun c hspace _ =>
  ⟨rfl, by simp only [advance, hspace]; rfl⟩

lemma starts_firstItem : Starts limit ⟨stack, .firstItem⟩ (.list [] :: stack) := fun c hspace hc =>
  ⟨rfl, by simp only [advance, hspace, if_neg hc]; rfl⟩

/-- The property is that of all sound states over the given lists and objects. -/
def Over (P : Reader → Prop) (stack : List Frame) : Prop :=
  ∀ r : Reader, stack <:+ r.stack → r.phase.Sound → P r

lemma Over.phase (h : Over P stack) {phase : Phase} (hphase : phase.Sound) : P ⟨stack, phase⟩ :=
  h _ (List.suffix_refl _) hphase

lemma Over.cons (h : Over P stack) (frame : Frame) : Over P (frame :: stack) :=
  fun r hr => h r ((List.suffix_cons frame stack).trans hr)

/-- The printed form of a value is read, wherever a value may stand; the reader stays over the lists
and objects that are open, in sound states. -/
def Prints (v : Json) : Prop :=
  ∀ (limit : Nat) (P : Reader → Prop) (stack : List Frame) (r : Reader),
    stack.length + v.depth ≤ limit → Starts limit r stack → P r → Over P stack →
    ∃ r', Run limit P r v.print r' ∧ Closes r' stack v.reread

/-- The first character of a value. -/
lemma run_beginValue {r₁ r' : Reader} {t : Text} (hstart : Starts limit r stack) (hr : P r)
    (hspace : isSpace c = false) (hc : c ≠ ']') (hbegin : beginValue limit stack c = .ok r₁)
    (h₁ : P r₁) (hrun : Run limit P r₁ t r') : Run limit P r (c :: t) r' := by
  obtain ⟨hsettle, hadvance⟩ := hstart c hspace hc
  exact .cons hsettle hr (hadvance.trans hbegin) h₁ hrun

lemma prints_null : Prints .null := by
  intro limit P stack r _ hstart hr hP
  exact ⟨_, run_beginValue hstart hr (c := 'n') rfl (by decide) rfl (hP.phase trivial)
    (run_word (fun _ => hP.phase trivial) (hP.phase trivial) 'u' ['l', 'l']), .inl rfl⟩

lemma prints_bool (b : Bool) : Prints (.bool b) := by
  intro limit P stack r _ hstart hr hP
  cases b with
  | true =>
    exact ⟨_, run_beginValue hstart hr (c := 't') rfl (by decide) rfl (hP.phase trivial)
      (run_word (fun _ => hP.phase trivial) (hP.phase trivial) 'r' ['u', 'e']), .inl rfl⟩
  | false =>
    exact ⟨_, run_beginValue hstart hr (c := 'f') rfl (by decide) rfl (hP.phase trivial)
      (run_word (fun _ => hP.phase trivial) (hP.phase trivial) 'a' ['l', 's', 'e']), .inl rfl⟩

/-- A string is read where a value may stand. -/
lemma run_string {t : Text} (hstart : Starts limit r stack) (hr : P r)
    (hstring : ∀ w e, P ⟨stack, .string .value w e⟩) (hdone : P ⟨stack, .done (.string t)⟩) :
    Run limit P r (printString t) ⟨stack, .done (.string t)⟩ := by
  have hrun : Run limit P ⟨stack, .string .value [] .none⟩ (t.flatMap printChar)
      ⟨stack, .string .value (t.reverse ++ []) .none⟩ := run_flatMap_printChar hstring [] t
  have hend : advance limit ⟨stack, .string .value (t.reverse ++ []) .none⟩ '"'
      = .ok ⟨stack, .done (.string t)⟩ := by simp [advance]
  exact run_beginValue hstart hr rfl (by decide) rfl (hstring _ _)
    (hrun.snoc rfl (hstring _ _) hend hdone)

lemma prints_string (t : Text) : Prints (.string t) := by
  intro limit P stack r _ hstart hr hP
  exact ⟨_, run_string hstart hr (fun _ _ => hP.phase trivial) (hP.phase trivial), .inl rfl⟩

/-- Numbers begin with a minus sign or a digit. -/
lemma eq_minus_or_digit_of_start? {s : Numeral × Numeral.Stage} (h : Numeral.start? c = some s) :
    c = '-' ∨ '0' ≤ c ∧ c ≤ '9' := by
  rw [Numeral.start?] at h
  split at h
  · next hc => exact .inl hc
  · split at h
    · next hc =>
      rw [hc]
      exact .inr (by decide)
    · obtain ⟨d, hd, -⟩ := Option.map_eq_some_iff.1 h
      rw [Text.digit?] at hd
      split at hd
      · next hc => exact .inr hc
      · cases hd

lemma beginValue_of_start? (limit : Nat) (stack : List Frame) {s : Numeral × Numeral.Stage}
    (h : Numeral.start? c = some s) :
    isSpace c = false ∧ c ≠ ']' ∧ beginValue limit stack c = .ok ⟨stack, .number s.1 s.2⟩ := by
  have hc := eq_minus_or_digit_of_start? h
  have hne : ∀ d, ¬ (d = '-' ∨ '0' ≤ d ∧ d ≤ '9') → c ≠ d := fun d hd he => hd (he ▸ hc)
  refine ⟨?_, hne ']' (by decide), ?_⟩
  · simp [isSpace, hne ' ' (by decide), hne '\n' (by decide), hne '\t' (by decide),
      hne '\r' (by decide)]
  · simp only [beginValue, if_neg (hne '"' (by decide)), if_neg (hne '[' (by decide)),
      if_neg (hne '\x7b' (by decide)), if_neg (hne 't' (by decide)), if_neg (hne 'f' (by decide)),
      if_neg (hne 'n' (by decide)), h]

lemma prints_number (n : Number) : Prints (.number n) := by
  intro limit P stack r _ hstart hr hP
  obtain ⟨c, t, s₀, s, htext, hs₀, hsound, htakes, hcomplete, hnumber⟩ := n.reads_reread
  obtain ⟨hspace, hbracket, hbegin⟩ := beginValue_of_start? limit stack hs₀
  have hnumbers : ∀ numeral stage, Numeral.Sound (numeral, stage) →
      P ⟨stack, .number numeral stage⟩ := fun _ _ h => hP.phase h
  rw [print, htext]
  exact ⟨_, run_beginValue hstart hr hspace hbracket hbegin (hnumbers _ _ hsound)
    (run_number htakes hsound hnumbers), .inr ⟨_, s.1, s.2, rfl, rfl, hcomplete, hnumber⟩⟩

/-! ## Lists and objects -/

/-- The items of a list are read in their order, behind those in `acc`. -/
lemma run_items {items : List Json} (hne : items ≠ []) (hitems : ∀ v ∈ items, Prints v)
    (hdepth : stack.length + 1 + depthItems items ≤ limit) (hP : Over P stack) (acc : List Json)
    (hstart : Starts limit r (.list acc :: stack)) (hr : P r) :
    Run limit P r (printItems items)
      ⟨stack, .done (.list (acc.reverse ++ items.map reread))⟩ := by
  -- the list grows by an item at each comma, and the bracket behind the last item closes it
  induction items generalizing acc r with
  | nil => exact absurd rfl hne
  | cons v items ih =>
    rw [depthItems] at hdepth
    obtain ⟨r', hrun, hcloses⟩ := hitems v (List.mem_cons_self ..) limit P (.list acc :: stack) r
      (by rw [List.length_cons]; omega) hstart hr (hP.cons _)
    have hdone : P ⟨.list acc :: stack, .done v.reread⟩ := (hP.cons _).phase trivial
    cases items with
    | nil =>
      have hend := hrun.snoc (hcloses.settle (.inr (.inl rfl))) hdone rfl (hP.phase trivial)
      simpa [printItems] using hend
    | cons w items =>
      have hnext : P ⟨.list (v.reread :: acc) :: stack, .value⟩ := (hP.cons _).phase trivial
      have hcomma := hrun.snoc (hcloses.settle (.inl rfl)) hdone rfl hnext
      have hrest := ih (by simp) (fun u hu => hitems u (List.mem_cons_of_mem _ hu)) (by omega)
        (v.reread :: acc) starts_value hnext
      have hboth := hcomma.append hrest
      simpa [printItems] using hboth

lemma prints_list {items : List Json} (hitems : ∀ v ∈ items, Prints v) : Prints (.list items) := by
  intro limit P stack r hdepth hstart hr hP
  rw [depth] at hdepth
  have hopen : stack.length < limit := by omega
  have hbegin : beginValue limit stack '[' = .ok ⟨stack, .firstItem⟩ := by simp [beginValue, hopen]
  rw [reread, rereadItems_eq_map]
  refine ⟨⟨stack, .done (.list (items.map reread))⟩,
    run_beginValue hstart hr rfl (by decide) hbegin (hP.phase trivial) ?_, .inl rfl⟩
  cases items with
  | nil => exact .cons rfl (hP.phase trivial) rfl (hP.phase trivial) (.nil _)
  | cons v items =>
    exact run_items (by simp) hitems (by omega) hP [] starts_firstItem (hP.phase trivial)

/-- The name of a member is read, and the colon behind it. -/
lemma run_name {acc : Members} {name : Text}
    (hstart : r = ⟨stack, .name acc⟩ ∨ acc = [] ∧ r = ⟨stack, .firstName⟩) (hr : P r)
    (hstring : ∀ w e, P ⟨stack, .string (.name acc) w e⟩) (hcolon : P ⟨stack, .colon acc name⟩)
    (hvalue : P ⟨.object acc name :: stack, .value⟩) :
    Run limit P r (printString name ++ [':']) ⟨.object acc name :: stack, .value⟩ := by
  have hquote : settle r '"' = .ok r ∧
      advance limit r '"' = .ok ⟨stack, .string (.name acc) [] .none⟩ := by
    rcases hstart with rfl | ⟨rfl, rfl⟩ <;> exact ⟨rfl, rfl⟩
  have hchars : Run limit P ⟨stack, .string (.name acc) [] .none⟩ (name.flatMap printChar)
      ⟨stack, .string (.name acc) (name.reverse ++ []) .none⟩ :=
    run_flatMap_printChar hstring [] name
  have hend : advance limit ⟨stack, .string (.name acc) (name.reverse ++ []) .none⟩ '"'
      = .ok ⟨stack, .colon acc name⟩ := by simp [advance]
  have hkey : Run limit P r (printString name) ⟨stack, .colon acc name⟩ :=
    .cons hquote.1 hr hquote.2 (hstring _ _) (hchars.snoc rfl (hstring _ _) hend hcolon)
  exact hkey.snoc rfl hcolon rfl hvalue

/-- A member is read behind those in `acc`, up to the end of its value. -/
def PassesMember (limit : Nat) (P : Reader → Prop) (stack : List Frame) (acc : Members)
    (m : Text × Json) : Prop :=
  ∀ r, (r = ⟨stack, .name acc⟩ ∨ acc = [] ∧ r = ⟨stack, .firstName⟩) → P r →
    ∃ r', Run limit P r (printString m.1 ++ ':' :: m.2.print) r' ∧
      Closes r' (.object acc m.1 :: stack) m.2.reread ∧
      P ⟨.object acc m.1 :: stack, .done m.2.reread⟩

/-- So it is when all states on the way have the property. -/
lemma passesMember {acc : Members} {m : Text × Json} (hm : Prints m.2)
    (hdepth : stack.length + 1 + m.2.depth ≤ limit)
    (hstring : ∀ w e, P ⟨stack, .string (.name acc) w e⟩) (hcolon : P ⟨stack, .colon acc m.1⟩)
    (hP : Over P (.object acc m.1 :: stack)) : PassesMember limit P stack acc m := by
  intro r hstart hr
  have hname : Run limit P r (printString m.1 ++ [':']) ⟨.object acc m.1 :: stack, .value⟩ :=
    run_name hstart hr hstring hcolon (hP.phase trivial)
  obtain ⟨r', hrun, hcloses⟩ := hm limit P (.object acc m.1 :: stack) _
    (by rw [List.length_cons]; omega) starts_value (hP.phase trivial) hP
  refine ⟨r', ?_, hcloses, hP.phase trivial⟩
  have hboth := hname.append hrun
  simpa using hboth

/-- The members of an object without the closing brace. -/
def printOpen : Members → Text
  | [] => []
  | [m] => printString m.1 ++ ':' :: m.2.print
  | m :: members => printString m.1 ++ ':' :: m.2.print ++ ',' :: printOpen members

lemma printMembers_eq (members : Members) :
    printMembers members = printOpen members ++ ['\x7d'] := by
  induction members with
  | nil => rfl
  | cons m members ih =>
    cases members with
    | nil => simp [printMembers, printOpen]
    | cons m' members => simp [printMembers, printOpen, ih]

/-- The members of an object are read in their order, behind those in `acc`, up to the closing
brace. What is asked of the states on the way is asked of each member behind those before it. -/
lemma run_members {members : Members} (hne : members ≠ []) (acc : Members)
    (hmembers : ∀ before m behind, members = before ++ m :: behind → PassesMember limit P stack
      ((before.map fun n => (n.1, n.2.reread)).reverse ++ acc) m)
    (hname : ∀ acc, P ⟨stack, .name acc⟩)
    (hstart : r = ⟨stack, .name acc⟩ ∨ acc = [] ∧ r = ⟨stack, .firstName⟩) (hr : P r) :
    ∃ r₁ r₂, Run limit P r (printOpen members) r₁ ∧ settle r₁ '\x7d' = .ok r₂ ∧ P r₂ ∧
      advance limit r₂ '\x7d' = .ok ⟨stack, .done
        (.object (acc.reverse ++ members.map fun n => (n.1, n.2.reread)))⟩ := by
  -- as for lists, with a name and a colon before each value
  induction members generalizing acc r with
  | nil => exact absurd rfl hne
  | cons m members ih =>
    obtain ⟨r', hrun, hcloses, hdone⟩ := hmembers [] m members rfl r hstart hr
    simp only [List.map_nil, List.reverse_nil, List.nil_append] at hcloses hdone
    cases members with
    | nil =>
      refine ⟨r', _, hrun, hcloses.settle (.inr (.inr rfl)), hdone, ?_⟩
      simp [advance, afterValue, isSpace]
    | cons m' members =>
      have hcomma := hrun.snoc (hcloses.settle (.inl rfl)) hdone rfl
        (hname ((m.1, m.2.reread) :: acc))
      have hnext : ∀ before n behind, m' :: members = before ++ n :: behind →
          PassesMember limit P stack ((before.map fun n => (n.1, n.2.reread)).reverse
            ++ (m.1, m.2.reread) :: acc) n := by
        intro before n behind hsplit
        have hpasses := hmembers (m :: before) n behind (congrArg (m :: ·) hsplit)
        simpa using hpasses
      obtain ⟨r₁, r₂, hrest, hsettle, h₂, hadvance⟩ := ih (by simp) ((m.1, m.2.reread) :: acc) hnext
        (.inl rfl) (hname _)
      refine ⟨r₁, r₂, ?_, hsettle, h₂, ?_⟩
      · have hboth := hcomma.append hrest
        simpa [printOpen] using hboth
      · simpa using hadvance

lemma depth_le_depthMembers {members : Members} {m : Text × Json} (h : m ∈ members) :
    m.2.depth ≤ depthMembers members := by
  induction members with
  | nil => cases h
  | cons n members ih =>
    rw [depthMembers]
    rcases List.mem_cons.1 h with rfl | h
    · exact Nat.le_max_left ..
    · exact (ih h).trans (Nat.le_max_right ..)

lemma prints_object {members : Members} (hmembers : ∀ m ∈ members, Prints m.2) :
    Prints (.object members) := by
  intro limit P stack r hdepth hstart hr hP
  rw [depth] at hdepth
  have hopen : stack.length < limit := by omega
  have hbegin : beginValue limit stack '\x7b' = .ok ⟨stack, .firstName⟩ := by
    simp [beginValue, hopen]
  rw [reread, rereadMembers_eq_map]
  refine ⟨⟨stack, .done (.object (members.map fun n => (n.1, n.2.reread)))⟩,
    run_beginValue hstart hr rfl (by decide) hbegin (hP.phase trivial) ?_, .inl rfl⟩
  by_cases hne : members = []
  · rw [hne]
    exact .cons rfl (hP.phase trivial) rfl (hP.phase trivial) (.nil _)
  have hpasses : ∀ before m behind, members = before ++ m :: behind → PassesMember limit P stack
      ((before.map fun n => (n.1, n.2.reread)).reverse ++ []) m := by
    intro before m behind hsplit
    have hm : m ∈ members := hsplit ▸ List.mem_append_right _ (List.mem_cons_self ..)
    have hle := depth_le_depthMembers hm
    exact passesMember (hmembers m hm) (by omega) (fun _ _ => hP.phase trivial)
      (hP.phase trivial) (hP.cons _)
  obtain ⟨r₁, r₂, hrun, hsettle, h₂, hadvance⟩ := run_members hne [] hpasses
    (fun _ => hP.phase trivial) (.inr ⟨rfl, rfl⟩) (hP.phase trivial)
  rw [printMembers_eq]
  exact hrun.snoc hsettle h₂ hadvance (hP.phase trivial)

/-- What is printed is read. -/
theorem prints (v : Json) : Prints v := by
  induction v using Json.induct with
  | null => exact prints_null
  | bool b => exact prints_bool b
  | number n => exact prints_number n
  | string t => exact prints_string t
  | list items ih => exact prints_list ih
  | object members ih => exact prints_object ih

/-- A run is what the reader does. -/
lemma run_of_run {P : Reader → Prop} {r r' : Reader} {t : Text} (h : Run limit P r t r') :
    run limit r t = .ok r' := by
  induction h with
  | nil => rfl
  | cons hsettle _ hadvance _ _ ih =>
    unfold run at ih ⊢
    rw [List.foldlM_cons, step, hsettle, Results.ok_bind, hadvance, Results.ok_bind, ih]

end Reader

/-- The text of a value is read as the value, but for its numbers, within a limit to which it
nests. -/
theorem readWithin_print {v : Json} {limit : Nat} (hdepth : v.depth ≤ limit) :
    readWithin limit v.print = .ok v.reread := by
  obtain ⟨r, hrun, hcloses⟩ := Reader.prints v limit (fun _ => True) [] .start
    (by simpa using hdepth) Reader.starts_value trivial fun _ _ _ => trivial
  rw [readWithin, Reader.run_of_run hrun, Results.ok_bind, Reader.finish, hcloses.close,
    Results.ok_bind]
  rfl

/-- A value is read as it is, when each binary64 in it is. -/
lemma reread_eq_self_of_real {v : Json}
    (h : ∀ x, .real x ∈ v.numbers → read (Number.real x).print = .ok (.number (.real x))) :
    v.reread = v := by
  apply reread_eq_self
  intro n hn
  cases n with
  | integer i hi => exact Number.reread_integer i hi
  | real x =>
    have hnumber : read (Number.real x).print = .ok (.number (Number.real x).reread) :=
      readWithin_print (v := .number (.real x)) (Nat.zero_le _)
    exact Json.number.inj (Except.ok.inj (hnumber.symm.trans (h x hn)))

end RuleTemplate.Json
