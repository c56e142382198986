import RuleTemplate.Proofs.Files
import RuleTemplate.Proofs.Settings.VariableFile
import RuleTemplate.Proofs.Text.Blank

/-!
# Writing files of variables

A file can give any texts to variables, but for the single quote and the backslash, if it puts each
between single quotes (`lookup_quotedLines`). Such a text may hold line feeds: the lines of its
value are read as one, as the quotes stay open between them (`entriesOf_quotes`).
-/

namespace RuleTemplate.VariableFile

variable {c : Char} {n t u p begun : Text} {st : LineState} {entry : Entry} {v : Text × Text}
  {vs : Variables}

/-! ## Names -/

/-- A name of a variable. -/
def IsName (n : Text) : Prop := n.head?.any beginsName = true ∧ ∀ c ∈ n, inName c = true

lemma toNat_lt_of_inName (h : inName c = true) : c.toNat < 128 := by
  have hv : c.toNat = c.val.toNat := rfl
  delta inName Char.isAlphanum Char.isAlpha Char.isUpper Char.isLower Char.isDigit at h
  simp only [Bool.or_eq_true, Bool.and_eq_true, decide_eq_true_eq, UInt32.le_iff_toNat_le,
    ge_iff_le] at h
  have hZ : 'Z'.val.toNat = 90 := rfl
  have hz : 'z'.val.toNat = 122 := rfl
  have h9 : '9'.val.toNat = 57 := rfl
  rcases h with (h | rfl) | rfl
  · omega
  · decide
  · decide

/-- A character of a name neither ends the name nor opens anything. -/
lemma plain_of_inName (hc : inName c = true) : Text.isBlank c = false ∧
    c ∉ ['\\', '"', '\'', '#', '=', '\n', '\ufeff'] := by
  have hall : ∀ k : Fin 128, inName (Char.ofNat k) = true → Text.isBlank (Char.ofNat k) = false ∧
      Char.ofNat k ∉ ['\\', '"', '\'', '#', '=', '\n', '\ufeff'] := by decide
  have hk := hall ⟨c.toNat, toNat_lt_of_inName hc⟩
  rw [Char.ofNat_toNat] at hk
  exact hk hc

lemma IsName.notMem (h : IsName n) (hc : c ∈ ['\\', '"', '\'', '#', '=', '\n', '\ufeff']) :
    c ∉ n := fun hmem => (plain_of_inName (h.2 c hmem)).2 hc

lemma IsName.exists_cons (h : IsName n) : ∃ c t, n = c :: t ∧ beginsName c = true := by
  cases n with
  | nil => cases h.1
  | cons c t => exact ⟨c, t, rfl, h.1⟩

/-- A name is read up to the equals sign behind it. -/
lemma IsName.assignment?_append (h : IsName n) (hc : Text.isBlank c = false) (t : Text) :
    assignment? (n ++ '=' :: c :: t) = some (n, c :: t) := by
  obtain ⟨d, m, rfl, hd⟩ := h.exists_cons
  have hm : ∀ d ∈ m, inName d = true := fun d hd => h.2 d (List.mem_cons_of_mem _ hd)
  have hname : name? ((d :: m) ++ '=' :: c :: t) = some (d :: m, '=' :: c :: t) := by
    rw [List.cons_append, name?, if_pos hd, List.takeWhile_append_of_pos hm,
      List.dropWhile_append_of_pos hm, List.takeWhile_cons_of_neg (by decide),
      List.dropWhile_cons_of_neg (by decide), List.append_nil]
  have hequals : Text.trimStart ('=' :: c :: t) = '=' :: c :: t := Text.trimStart_cons (by decide) _
  rw [assignment?, hname]
  simp only [Option.bind_eq_bind, Option.bind_some, hequals, Text.trimStart_cons hc]

/-! ## The line -/

/-- A line that gives a text to a variable. -/
def quotedLine (v : Text × Text) : Text := v.1 ++ '=' :: '\'' :: (v.2 ++ ['\'', '\n'])

/-- Between single quotes, characters stand for themselves. -/
lemma value?_single (h : '\'' ∉ t) : value? .single (t ++ ['\'']) = some (t.map .char) := by
  induction t with
  | nil => rfl
  | cons c t ih =>
    rw [List.mem_cons, not_or] at h
    rw [List.cons_append, value?, ValueState.step, if_neg (Ne.symm h.1)]
    simp only [Option.bind_eq_bind, Option.bind_some, ih h.2]
    rfl

lemma trim_quotedLine (hn : IsName v.1) :
    Text.trim (quotedLine v) = v.1 ++ '=' :: '\'' :: (v.2 ++ ['\'']) := by
  obtain ⟨c, m, hname, -⟩ := hn.exists_cons
  have hblank : Text.isBlank c = false := (plain_of_inName (hn.2 c (by simp [hname]))).1
  have hline : quotedLine v = c :: (m ++ '=' :: '\'' :: v.2) ++ ['\'', '\n'] := by
    simp [quotedLine, hname]
  have hreverse : (c :: (m ++ '=' :: '\'' :: v.2) ++ ['\'', '\n']).reverse
      = '\n' :: '\'' :: (c :: (m ++ '=' :: '\'' :: v.2)).reverse := List.reverse_append
  have hend : Text.trimStart ('\n' :: '\'' :: (c :: (m ++ '=' :: '\'' :: v.2)).reverse)
      = '\'' :: (c :: (m ++ '=' :: '\'' :: v.2)).reverse := by
    rw [Text.trimStart, List.dropWhile_cons_of_pos (by decide),
      List.dropWhile_cons_of_neg (by decide)]
  rw [hline, Text.trim, List.cons_append, Text.trimStart_cons hblank, ← List.cons_append, hreverse,
    hend, List.reverse_cons, List.reverse_reverse]
  simp [hname]

/-- The line as a whole is an entry. -/
lemma readLine?_quotedLine (hn : IsName v.1) (hquote : '\'' ∉ v.2) :
    readLine? (quotedLine v) = some (some (v.1, v.2.map .char)) := by
  obtain ⟨c, m, hname, -⟩ := hn.exists_cons
  have hcomment : c ≠ '#' := by
    have hmem : c ∈ v.1 := by simp [hname]
    rintro rfl
    exact hn.notMem (by decide) hmem
  have hassignment : exported? (v.1 ++ '=' :: '\'' :: (v.2 ++ ['\'']))
      = some (v.1, '\'' :: (v.2 ++ ['\''])) := by
    rw [exported?, hn.assignment?_append (by decide)]
  have hvalue : value? (.plain false) ('\'' :: (v.2 ++ ['\''])) = some (v.2.map .char) := by
    have hopen : ValueState.step '\'' (.plain false) = some ([], .single) := by decide
    rw [value?, hopen]
    simp only [Option.bind_eq_bind, Option.bind_some, value?_single hquote]
    rfl
  rw [readLine?, trim_quotedLine hn]
  simp only
  rw [if_neg (by simp [hname, hcomment]), hassignment]
  simp only [Option.bind_eq_bind, Option.bind_some, List.head?_cons, hvalue]
  rw [if_neg (by decide)]
  rfl

/-! ## Quotes over several lines -/

/-- Some lines begin so that single quotes are open behind it. -/
def Opens (st : LineState) (p : Text) : Prop :=
  ∀ u, saidBy st (p ++ u) = (p ++ (saidBy (.quotes '\'') u).1, (saidBy (.quotes '\'') u).2)

/-- What stands between the quotes leaves them open. -/
lemma Opens.append (h : Opens st p) (hquote : '\'' ∉ t) (hback : '\\' ∉ t) : Opens st (p ++ t) := by
  have ht : Opens (.quotes '\'') t := by
    intro u
    clear h
    induction t with
    | nil => rfl
    | cons c t ih =>
      rw [List.mem_cons, not_or] at hquote hback
      have hstep : (LineState.quotes '\'').step c = .quotes '\'' := by
        rw [LineState.step, if_neg (Ne.symm hback.1), if_neg (Ne.symm hquote.1)]
      rw [List.cons_append, saidBy, if_neg (by simp), hstep, ih hquote.2 hback.2]
      rfl
  intro u
  rw [List.append_assoc, h, ht, List.append_assoc]

/-- The quotes of a line are opened behind its name. -/
lemma opens_name (hn : IsName n) : Opens .closed (n ++ ['=', '\'']) := by
  have hplain : ∀ c ∈ n, LineState.closed.step c = .closed := by
    intro c hc
    obtain ⟨hblank, hmeans⟩ := plain_of_inName (hn.2 c hc)
    simp only [List.mem_cons, not_or] at hmeans
    simp [LineState.step, LineState.opened, hblank, hmeans]
  intro u
  clear hn
  induction n with
  | nil => rfl
  | cons c n ih =>
    obtain ⟨hc, hrest⟩ := List.forall_mem_cons.1 hplain
    rw [List.cons_append, List.cons_append, saidBy, if_neg (by simp), hc, ih hrest]
    rfl

/-- A line that leaves something open is read together with the next one. -/
lemma entriesOf_of_open {line said : Text} {ends : LineState} {lines : List (Option Text)}
    (hcomment : (Text.trimStart (begun ++ line)).head? ≠ some '#')
    (hsaid : saidBy st line = (said, ends)) (hopen : ends ≠ .closed) :
    entriesOf begun st (some line :: lines) = entriesOf (begun ++ line) ends lines := by
  rw [entriesOf, if_neg hcomment, hsaid]
  exact if_pos hopen

lemma entriesOf_of_closed {line said : Text} {lines : List (Option Text)}
    (hcomment : (Text.trimStart (begun ++ line)).head? ≠ some '#')
    (hsaid : saidBy st line = (said, .closed))
    (hentry : readLine? (begun ++ said) = some (some entry)) :
    entriesOf begun st (some line :: lines) = entry :: entriesOf [] .closed lines := by
  rw [entriesOf, if_neg hcomment, hsaid]
  simp only [ne_eq, not_true_eq_false, if_false, hentry]

/-- A text between single quotes is read to the end, over as many lines as it has. -/
lemma entriesOf_quotes (hp : Opens st p) (hfeed : '\n' ∉ p)
    (hcomment : ∀ u, (Text.trimStart (begun ++ (p ++ u))).head? ≠ some '#')
    (hquote : '\'' ∉ t) (hback : '\\' ∉ t)
    (hentry : readLine? (begun ++ (p ++ (t ++ ['\'', '\n']))) = some (some entry)) (rest : Text) :
    entriesOf begun st ((Text.cutBehind '\n' (p ++ (t ++ '\'' :: '\n' :: rest))).map some)
      = entry :: entriesOf [] .closed ((Text.cutBehind '\n' rest).map some) := by
  induction hlength : t.length using Nat.strong_induction_on generalizing t st p begun with
  | _ length ih =>
    rcases Text.eq_append_cons_or_notMem '\n' t with ⟨front, behind, rfl, hfront⟩ | hmem
    · -- the first line ends within the text, and the next one goes on between the quotes
      rw [List.mem_append, List.mem_cons, not_or, not_or] at hquote hback
      have hcut : p ++ ((front ++ '\n' :: behind) ++ '\'' :: '\n' :: rest)
          = (p ++ front) ++ '\n' :: ([] ++ (behind ++ '\'' :: '\n' :: rest)) := by simp
      have hsaid : saidBy st ((p ++ front) ++ ['\n']) = ((p ++ front) ++ ['\n'], .quotes '\'') :=
        hp.append hquote.1 hback.1 ['\n']
      have hgoes : ∀ u, begun ++ ((p ++ front) ++ ['\n']) ++ ([] ++ u)
          = begun ++ (p ++ (front ++ '\n' :: u)) := by simp
      have hstart : (Text.trimStart (begun ++ ((p ++ front) ++ ['\n']))).head? ≠ some '#' := by
        rw [List.append_assoc]
        exact hcomment _
      have hentry' : readLine? (begun ++ ((p ++ front) ++ ['\n'])
          ++ ([] ++ (behind ++ ['\'', '\n']))) = some (some entry) := by
        rw [hgoes, ← List.cons_append, ← List.append_assoc front]
        exact hentry
      rw [hcut, Text.cutBehind_append_cons (by simp [hfeed, hfront]), List.map_cons,
        entriesOf_of_open hstart hsaid (by simp)]
      refine ih behind.length ?_ (fun u => rfl) List.not_mem_nil ?_ hquote.2.2 hback.2.2 hentry' rfl
      · rw [← hlength, List.length_append, List.length_cons]
        omega
      · intro u
        rw [hgoes]
        exact hcomment _
    · have hcut : p ++ (t ++ '\'' :: '\n' :: rest) = (p ++ (t ++ ['\''])) ++ '\n' :: rest := by simp
      have hline : (p ++ (t ++ ['\''])) ++ ['\n'] = p ++ (t ++ ['\'', '\n']) := by simp
      have hsaid : saidBy st (p ++ (t ++ ['\'', '\n'])) = (p ++ (t ++ ['\'', '\n']), .closed) := by
        rw [← List.append_assoc]
        exact hp.append hquote hback ['\'', '\n']
      rw [hcut, Text.cutBehind_append_cons (by simp [hfeed, hmem]), hline, List.map_cons,
        entriesOf_of_closed (hcomment _) hsaid hentry]

/-! ## The file -/

/-- What can be written to a file: a name, and a text without the single quote and the backslash. -/
structure Writable (v : Text × Text) : Prop where
  isName : IsName v.1
  quote_notMem : '\'' ∉ v.2
  backslash_notMem : '\\' ∉ v.2

lemma entriesOf_quotedLine (hv : Writable v) (rest : Text) :
    entriesOf [] .closed ((Text.cutBehind '\n' (quotedLine v ++ rest)).map some)
      = (v.1, v.2.map .char) :: entriesOf [] .closed ((Text.cutBehind '\n' rest).map some) := by
  obtain ⟨c, m, hname, -⟩ := hv.isName.exists_cons
  obtain ⟨hblank, hmeans⟩ := plain_of_inName (hv.isName.2 c (by simp [hname]))
  have hline : ∀ u, quotedLine v ++ u
      = (v.1 ++ ['=', '\'']) ++ (v.2 ++ '\'' :: '\n' :: u) := by simp [quotedLine]
  have hentry : readLine? ([] ++ ((v.1 ++ ['=', '\'']) ++ (v.2 ++ ['\'', '\n'])))
      = some (some (v.1, v.2.map .char)) := by
    rw [List.nil_append, ← hline, List.append_nil]
    exact readLine?_quotedLine hv.isName hv.quote_notMem
  have hfeed : '\n' ∉ v.1 ++ ['=', '\''] := by
    rw [List.mem_append, not_or]
    exact ⟨hv.isName.notMem (by decide), by decide⟩
  have hcomment : ∀ u, (Text.trimStart ([] ++ ((v.1 ++ ['=', '\'']) ++ u))).head? ≠ some '#' := by
    intro u
    simp only [hname, List.nil_append, List.cons_append, Text.trimStart_cons hblank,
      List.head?_cons, ne_eq, Option.some.injEq]
    rintro rfl
    exact hmeans (by decide)
  rw [hline]
  exact entriesOf_quotes (opens_name hv.isName) hfeed hcomment hv.quote_notMem hv.backslash_notMem
    hentry rest

/-- A text that does not begin with the mark of a file is read from its beginning. -/
lemma lines_utf8 (h : t.head? ≠ some '\ufeff') :
    lines t.utf8 = (Text.cutBehind '\n' t).map some := by
  rw [lines, Text.linesOfBytes_utf8]
  cases t with
  | nil => rfl
  | cons c t =>
    obtain ⟨first, others, hcut⟩ := Text.exists_cutBehind_cons '\n' c t
    have hmark : behindMark (c :: first) = c :: first := by
      rw [List.head?_cons, ne_eq, Option.some.injEq] at h
      rw [behindMark, Text.stripLead?, if_neg (Ne.symm h)]
      rfl
    rw [hcut, List.map_cons]
    simp only [hmark]

/-- Lines with texts between single quotes are read as entries with these texts. -/
lemma read_quotedLines (h : ∀ v ∈ vs, Writable v) :
    read (Text.utf8 (vs.flatMap quotedLine)) = vs.map fun v => (v.1, v.2.map .char) := by
  have hentries : entriesOf [] .closed ((Text.cutBehind '\n' (vs.flatMap quotedLine)).map some)
      = vs.map fun v => (v.1, v.2.map .char) := by
    induction vs with
    | nil => rfl
    | cons v vs ih =>
      obtain ⟨hv, hrest⟩ := List.forall_mem_cons.1 h
      rw [List.flatMap_cons, entriesOf_quotedLine hv, ih hrest, List.map_cons]
  have hmark : (vs.flatMap quotedLine).head? ≠ some '\ufeff' := by
    cases vs with
    | nil => simp
    | cons v vs =>
      have hv := (h v (List.mem_cons_self ..)).isName
      obtain ⟨c, m, hname, -⟩ := hv.exists_cons
      have hmem : c ∈ v.1 := by simp [hname]
      simp only [List.flatMap_cons, quotedLine, hname, List.cons_append, List.head?_cons, ne_eq,
        Option.some.injEq]
      rintro rfl
      exact hv.notMem (by decide) hmem
  rw [read, lines_utf8 hmark, hentries]

/-- Entries without references give what they say. -/
lemma given_map_char (vars vs : Variables) (n : Text) :
    given vars (vs.map fun v => (v.1, v.2.map .char)) n = vs.lookup n := by
  induction vs generalizing vars with
  | nil => rfl
  | cons v vs ih =>
    have hvalue : valueIn vars (v.2.map .char) = v.2 := by
      rw [valueIn, List.flatMap_map]
      exact List.flatMap_singleton' v.2
    rw [List.map_cons, given, ih, hvalue, List.lookup_cons]
    split
    next hn => rw [hn, beq_self_eq_true]
    next hn => rw [beq_false_of_ne (Ne.symm hn)]

/-- A file can give any texts without the single quote and the backslash to any variables, and those
that are not set have them then. -/
theorem lookup_quotedLines (vars : Variables) (h : ∀ v ∈ vs, Writable v) (n : Text) :
    (withEntries vars (read (Text.utf8 (vs.flatMap quotedLine)))).lookup n
      = (vars.lookup n).or (vs.lookup n) := by
  rw [read_quotedLines h, lookup_withEntries, given_map_char]

end RuleTemplate.VariableFile
