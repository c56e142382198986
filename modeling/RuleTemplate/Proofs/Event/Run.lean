import RuleTemplate.Event.Reader
import RuleTemplate.Proofs.Event.Decode
import RuleTemplate.Proofs.Json.Run

/-!
# The text of an object, as an event

The text of an event is read by a machine that complains as soon as it is clear that no event stands
there (`Event.verdict`). On the text of an object that names a kind, once and anywhere among its
members, it has nothing to complain about, and up to the closing brace it waits for more
(`Event.Waits`, `Event.run_object`).

So everything is known about such a text from what its value is decoded as: the text cut short, the
text alone and with blanks behind it, and with anything else behind it (`Event.read_object`).
-/

namespace RuleTemplate.Event

open Json (Reader nestingLimit)
open Json.Reader (Run PassesMember)

/-- The reader has met nothing that is no event. -/
def Accepted (r : Reader) : Prop := verdict r = .ok ()

/-- What is read when the text ends in a state. -/
def conclude (r : Reader) : Except Fault Event := do
  let r ← proceed r.close
  match r.finish with
  | .error fault => .error (.json fault)
  | .ok v => (decode v).mapError .event

/-- The reader has met nothing that is no event, and more of the text has to come. -/
structure Waits (r : Reader) : Prop where
  accepted : Accepted r
  conclude_eq : conclude r = .error (.json .ended)

variable {r r' : Reader} {s t : Text} {v : Json} {acc members : Json.Members} {name : Text}

/-! ## Steps -/

lemma proceed_ok (h : Accepted r) : proceed (.ok r) = .ok r := by
  rw [Accepted] at h
  simp only [proceed, h]

lemma step_of_accepted {r₁ : Reader} {c : Char} (hsettle : r.settle c = .ok r₁) (h₁ : Accepted r₁)
    (hadvance : r₁.advance nestingLimit c = .ok r') (h' : Accepted r') : step r c = .ok r' := by
  rw [step, hsettle, proceed_ok h₁, Results.ok_bind, hadvance, proceed_ok h']

/-- A run through states in which the reader waits is one of the reader of events. -/
lemma foldlM_step_of_run (h : Run nestingLimit Waits r t r') : t.foldlM step r = .ok r' := by
  induction h with
  | nil => rfl
  | cons hsettle h₁ hadvance h₂ _ ih =>
    rw [List.foldlM_cons, step_of_accepted hsettle h₁.accepted hadvance h₂.accepted,
      Results.ok_bind, ih]

lemma read_of_foldlM (h : t.foldlM step Reader.start = .ok r) : read t = conclude r := by
  rw [read, h, Results.ok_bind]
  rfl

/-! ## States in which the reader waits -/

/-- At the end of the text, the document would not be complete. -/
lemma waits_of_close (h : Accepted r) (hclose : r.close = .error .ended ∨
    ∃ r', r.close = .ok r' ∧ Accepted r' ∧ r'.finish = .error .ended) : Waits r := by
  refine ⟨h, ?_⟩
  unfold conclude
  rcases hclose with hclose | ⟨r', hclose, h', hfinish⟩
  · rw [hclose]
    rfl
  · rw [hclose, proceed_ok h', Results.ok_bind]
    simp only [hfinish]

/-- Where no number is open, the state itself tells that. -/
lemma waits_of_finish (h : Accepted r) (hclose : r.close = .ok r)
    (hfinish : r.finish = .error .ended) : Waits r :=
  waits_of_close h (.inr ⟨r, hclose, h, hfinish⟩)

lemma waits_start : Waits Reader.start := waits_of_finish rfl rfl rfl

/-- Above a member that is not the tag, everything is accepted. -/
lemma accepted_of_suffix (hname : name ≠ tag) (h : [Json.Frame.object acc name] <:+ r.stack) :
    Accepted r := by
  obtain ⟨stack, phase⟩ := r
  obtain ⟨inner, hinner⟩ := h
  -- the reader complains within the outermost object only, and there about the tag
  cases inner with
  | nil =>
    obtain rfl : [Json.Frame.object acc name] = stack := hinner
    simp only [Accepted, verdict, if_neg hname]
  | cons frame inner =>
    obtain rfl : frame :: (inner ++ [Json.Frame.object acc name]) = stack := hinner
    cases inner <;> simp only [Accepted, verdict, List.nil_append, List.cons_append]

/-- There the reader waits for the end of the member at least. -/
lemma waits_of_suffix (hname : name ≠ tag) (h : [Json.Frame.object acc name] <:+ r.stack)
    (hsound : r.phase.Sound) : Waits r := by
  have hstack : r.stack ≠ [] := by
    intro heq
    rw [heq, List.suffix_nil] at h
    cases h
  refine waits_of_close (accepted_of_suffix hname h) ?_
  rcases Reader.close_of_sound hsound with hclose | ⟨phase, hclose, hagain⟩
  · exact .inl hclose
  · exact .inr ⟨⟨r.stack, phase⟩, hclose, accepted_of_suffix hname h,
      Reader.finish_of_stack_ne_nil hagain hstack⟩

/-- Before the colon of a member the reader waits, if the member is not the tag once more. -/
lemma waits_colon (h : name ≠ tag ∨ ∀ n ∈ acc, n.1 ≠ tag) : Waits ⟨[], .colon acc name⟩ := by
  have hnot : ¬ (name = tag ∧ acc.any (·.1 = tag)) := by
    rintro ⟨hname, hany⟩
    obtain ⟨n, hn, htag⟩ := List.any_eq_true.1 hany
    rcases h with h | h
    · exact h hname
    · exact h n hn (of_decide_eq_true htag)
  have haccepted : Accepted ⟨[], .colon acc name⟩ := by
    simp only [Accepted, verdict, if_neg hnot]
  exact waits_of_finish haccepted rfl rfl

/-- Behind the tag, the name of the kind may stand. -/
lemma waits_kind (acc : Json.Members) (k : Kind) :
    Waits ⟨[.object acc tag], .done (.string k.name)⟩ := by
  have haccepted : Accepted ⟨[.object acc tag], .done (.string k.name)⟩ := by
    show (if tag = tag then Kind.verdict (.done (.string k.name)) else .ok ()) = .ok ()
    rw [if_pos rfl, Kind.verdict, Kind.decode_name]
    rfl
  exact waits_of_finish haccepted rfl rfl

/-- The whole event may stand at the end. -/
lemma accepted_done {e : Event} (h : decode v = .ok e) : Accepted ⟨[], .done v⟩ := by
  show (decode v).map (fun _ => ()) = .ok ()
  rw [h]
  rfl

lemma conclude_done {e : Event} (h : decode v = .ok e) : conclude ⟨[], .done v⟩ = .ok e := by
  have hclose : proceed (Reader.close ⟨[], .done v⟩) = .ok ⟨[], .done v⟩ :=
    proceed_ok (accepted_done h)
  rw [conclude, hclose, Results.ok_bind]
  show (decode v).mapError Fault.event = .ok e
  rw [h]
  rfl

/-! ## Objects -/

/-- The reader goes through the tag, which did not come before. -/
lemma passesMember_tag (k : Kind) (hacc : ∀ n ∈ acc, n.1 ≠ tag) :
    PassesMember nestingLimit Waits [] acc (tag, .string k.name) := by
  intro r hstart hr
  have hstring : ∀ w e, Waits ⟨[], .string (.name acc) w e⟩ :=
    fun _ _ => waits_of_finish rfl rfl rfl
  have hvalue : Waits ⟨[.object acc tag], .value⟩ := waits_of_finish rfl rfl rfl
  have hkind : ∀ w e, Waits ⟨[.object acc tag], .string .value w e⟩ :=
    fun _ _ => waits_of_finish rfl rfl rfl
  have hname : Run nestingLimit Waits r (Json.printString tag ++ [':'])
      ⟨[.object acc tag], .value⟩ :=
    Reader.run_name hstart hr hstring (waits_colon (.inr hacc)) hvalue
  have hrun : Run nestingLimit Waits ⟨[.object acc tag], .value⟩ (Json.printString k.name)
      ⟨[.object acc tag], .done (.string k.name)⟩ :=
    Reader.run_string Reader.starts_value hvalue hkind (waits_kind acc k)
  have hboth := hname.append hrun
  refine ⟨⟨[.object acc tag], .done (.string k.name)⟩, ?_, .inl rfl, waits_kind acc k⟩
  simpa [Json.print] using hboth

/-- The reader goes through any other member. -/
lemma passesMember_other {m : Text × Json} (hm : m.1 ≠ tag)
    (hdepth : m.2.depth + 1 ≤ nestingLimit) : PassesMember nestingLimit Waits [] acc m := by
  have hstring : ∀ w e, Waits ⟨[], .string (.name acc) w e⟩ :=
    fun _ _ => waits_of_finish rfl rfl rfl
  refine Reader.passesMember (Reader.prints m.2) ?_ hstring (waits_colon (.inl hm))
    fun _ hsuffix hsound => waits_of_suffix hm hsuffix hsound
  rw [List.length_nil]
  omega

/-- The reader goes through the text of an object that names a kind once, and waits up to the
closing brace. -/
lemma run_object {k : Kind} (htag : members.filter (·.1 = tag) = [(tag, .string k.name)])
    (hdepth : (Json.object members).depth ≤ nestingLimit) :
    ∃ r₁ r₂, Run nestingLimit Waits .start ('\x7b' :: Reader.printOpen members) r₁ ∧
      r₁.settle '\x7d' = .ok r₂ ∧ Waits r₂ ∧
      r₂.advance nestingLimit '\x7d' = .ok ⟨[], .done (Json.object members).reread⟩ := by
  have hne : members ≠ [] := by
    rintro rfl
    cases htag
  have hpasses : ∀ before m behind, members = before ++ m :: behind → PassesMember nestingLimit
      Waits [] ((before.map fun n => (n.1, n.2.reread)).reverse ++ []) m := by
    intro before m behind hsplit
    have hm : m ∈ members := hsplit ▸ List.mem_append_right _ (List.mem_cons_self ..)
    by_cases hmtag : m.1 = tag
    -- what is in front of the tag has other names, as it comes once
    · have hkeep : decide (m.1 = tag) = true := decide_eq_true hmtag
      rw [hsplit, List.filter_append, List.filter_cons, if_pos hkeep,
        List.append_eq_singleton_iff] at htag
      obtain ⟨hbefore, hrest⟩ | ⟨-, hrest⟩ := htag
      · obtain rfl : m = (tag, .string k.name) := (List.cons.inj hrest).1
        refine passesMember_tag k fun n hn => ?_
        simp only [List.append_nil, List.mem_reverse, List.mem_map] at hn
        obtain ⟨n, hn, rfl⟩ := hn
        simpa using List.filter_eq_nil_iff.1 hbefore n hn
      · cases hrest
    · have hle := Json.Reader.depth_le_depthMembers hm
      rw [Json.depth] at hdepth
      exact passesMember_other hmtag (by omega)
  have hfirst : Waits ⟨[], .firstName⟩ := waits_of_finish rfl rfl rfl
  obtain ⟨r₁, r₂, hrun, hsettle, h₂, hadvance⟩ := Reader.run_members hne [] hpasses
    (fun _ => waits_of_finish rfl rfl rfl) (.inr ⟨rfl, rfl⟩) hfirst
  refine ⟨r₁, r₂, .cons rfl waits_start rfl hfirst hrun, hsettle, h₂, ?_⟩
  rw [hadvance, Json.reread, Json.rereadMembers_eq_map]
  rfl

/-! ## Behind the document -/

lemma step_space {c : Char} (h : Accepted ⟨[], .done v⟩) (hc : Reader.isSpace c = true) :
    step ⟨[], .done v⟩ c = .ok ⟨[], .done v⟩ := by
  have hadvance : Reader.advance nestingLimit ⟨[], .done v⟩ c = .ok ⟨[], .done v⟩ := by
    simp only [Reader.advance, hc, if_true]
  exact step_of_accepted rfl h hadvance h

lemma step_surplus {c : Char} (h : Accepted ⟨[], .done v⟩) (hc : Reader.isSpace c = false) :
    step ⟨[], .done v⟩ c = .error (.json .malformed) := by
  have hadvance : Reader.advance nestingLimit ⟨[], .done v⟩ c = .error .malformed := by
    simp only [Reader.advance, hc]
    rfl
  have hsettle : Reader.settle ⟨[], .done v⟩ c = .ok ⟨[], .done v⟩ := rfl
  rw [step, hsettle, proceed_ok h, Results.ok_bind, hadvance]
  rfl

/-- Behind the document, blanks are passed over, and the first other character is malformed. -/
lemma foldlM_step_done (h : Accepted ⟨[], .done v⟩) (s : Text) :
    s.foldlM step ⟨[], .done v⟩ =
      if s.all Reader.isSpace then .ok ⟨[], .done v⟩ else .error (.json .malformed) := by
  induction s with
  | nil => rfl
  | cons c s ih =>
    rw [List.foldlM_cons, List.all_cons]
    cases hc : Reader.isSpace c with
    | true => rw [step_space h hc, Results.ok_bind, ih, Bool.true_and]
    | false =>
      rw [step_surplus h hc]
      rfl

/-! ## The whole text -/

/-- What is read from the text of an object that names a kind once and whose value is decoded as an
event. Cut short, the text has ended too early; blanks may stand behind it; and anything else behind
it is malformed. -/
theorem read_object {k : Kind} {e : Event}
    (htag : members.filter (·.1 = tag) = [(tag, .string k.name)])
    (hdepth : (Json.object members).depth ≤ nestingLimit)
    (hdecode : decode (Json.object members).reread = .ok e) :
    (∀ s t, s ++ t = (Json.object members).print → t ≠ [] → read s = .error (.json .ended)) ∧
      ∀ s, read ((Json.object members).print ++ s) =
        if s.all Reader.isSpace then .ok e else .error (.json .malformed) := by
  obtain ⟨r₁, r₂, hrun, hsettle, h₂, hadvance⟩ := run_object htag hdepth
  have hprint : (Json.object members).print = '\x7b' :: Reader.printOpen members ++ ['\x7d'] := by
    rw [Json.print, Reader.printMembers_eq]
    rfl
  have hdone : Accepted ⟨[], .done (Json.object members).reread⟩ := accepted_done hdecode
  constructor
  · intro s t hst ht
    -- the last character is cut off at least, so the cut lies before the closing brace
    obtain ⟨t, c, rfl⟩ := List.eq_nil_or_concat t |>.resolve_left ht
    rw [hprint, List.concat_eq_append, ← List.append_assoc] at hst
    have hopen := List.append_inj_left' hst rfl
    rw [← hopen] at hrun
    obtain ⟨r, hs, -⟩ := hrun.split
    have hwaits : Waits r := hs.holds waits_start
    rw [read_of_foldlM (foldlM_step_of_run hs), hwaits.conclude_eq]
  · intro s
    have hall : ((Json.object members).print ++ s).foldlM step Reader.start =
        s.foldlM step ⟨[], .done (Json.object members).reread⟩ := by
      rw [hprint, List.foldlM_append, List.foldlM_append, foldlM_step_of_run hrun, Results.ok_bind,
        List.foldlM_cons, step_of_accepted hsettle h₂.accepted hadvance hdone]
      rfl
    rw [foldlM_step_done hdone] at hall
    by_cases hs : s.all Reader.isSpace = true
    · rw [if_pos hs] at hall ⊢
      rw [read_of_foldlM hall, conclude_done hdecode]
    · rw [if_neg hs] at hall ⊢
      rw [read, hall]
      rfl

end RuleTemplate.Event
