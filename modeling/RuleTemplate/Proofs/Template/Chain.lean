import RuleTemplate.Proofs.Template.Failures
import RuleTemplate.Proofs.Template.Safety

/-!
# The chain of extensions

A scan depends on its answers at the markers that it comes to, and on no others (`Scan.run_congr`).
So a formatter whose extensions are other ones renders a template in the same way, when the two
chains of extensions agree at these markers (`Formatter.render_congr`). They do when one of them has
an extension more that claims nothing, when they differ only behind extensions that answer first,
and when built-in names leave nothing to them.
-/

namespace RuleTemplate

/-- The hooks of the extension claim nothing, whatever they are shown. -/
structure Extension.Passes (x : Extension) (e : Event) : Prop where
  span : ∀ behind, x.span e behind = .ok none
  path : ∀ path, x.path e path = none

namespace Formatter

variable {f : Formatter} {e : Event} {offset : Nat} {behind : Text} {xs ys : List Extension}
  {x : Extension}

/-! ## Chains that agree -/

lemma spanAnswer?_append : spanAnswer? e offset behind (xs ++ ys)
    = (spanAnswer? e offset behind xs).or (spanAnswer? e offset behind ys) := by
  induction xs with
  | nil => rfl
  | cons x xs ih =>
    rw [List.cons_append, spanAnswer?, spanAnswer?]
    cases x.span e behind with
    | error error => rfl
    | ok s? =>
      cases s? with
      | some s => rfl
      | none => exact ih

/-- An extension whose hooks claim nothing is left out. -/
lemma answer_insert (hx : x.Passes e) (hxs : f.extensions = xs ++ ys) :
    { f with extensions := xs ++ x :: ys }.answer e offset behind = f.answer e offset behind := by
  have hspan : spanAnswer? e offset behind (x :: ys) = spanAnswer? e offset behind ys := by
    rw [spanAnswer?, hx.span]
  have hpath : ∀ p : Placeholder, { f with extensions := xs ++ x :: ys }.pathAnswer e p
      = f.pathAnswer e p := by
    intro p
    simp only [pathAnswer, hxs, List.findSome?_append, List.findSome?_cons, hx.path]
  unfold answer
  simp only [hpath, hxs, spanAnswer?_append, hspan]

/-- What an extension of `xs` answers first is the answer, whatever comes behind `xs`. -/
lemma answer_of_spoken (hxs : f.extensions = xs ++ ys) (hname : Builtin.find? behind = none)
    (hspoken : ∃ x ∈ xs, x.span e behind ≠ .ok none) (zs : List Extension) :
    { f with extensions := xs ++ zs }.answer e offset behind = f.answer e offset behind := by
  have hsome : spanAnswer? e offset behind xs ≠ none := by
    rw [Ne, spanAnswer?_eq_none_iff]
    intro hpass
    obtain ⟨x, hx, hspeaks⟩ := hspoken
    exact hspeaks (hpass x hx)
  obtain ⟨a, ha⟩ := Option.ne_none_iff_exists'.1 hsome
  have hanswer : ∀ zs, spanAnswer? e offset behind (xs ++ zs) = some a := by
    intro zs
    rw [spanAnswer?_append, ha]
    rfl
  rw [answer_of_span (f := f) hname (hxs ▸ hanswer ys)]
  exact answer_of_span hname (hanswer zs)

end Formatter

/-! ## Scans that agree -/

namespace Scan

variable {answer answer' : Nat → Text → Answer} {t : Text} {s : Scan}

/-- The markers that were looked at stay known. -/
lemma visited_subset_run (answer : Nat → Text → Answer) (t : Text) (s : Scan) :
    s.visited ⊆ (s.run answer t).visited := by
  induction s using Scan.run.induct answer t with
  | case1 s hnext =>
    rw [run_of_next?_eq_none hnext]
    exact List.Subset.refl _
  | case2 s offset hnext a error =>
    rename_i hfailure
    rw [run_of_failure?_eq_some hnext hfailure]
    show s.visited ⊆ (s.visit t offset _).visited
    rw [visited_visit]
    exact List.subset_append_left ..
  | case3 s offset hnext a hok =>
    rename_i ih
    rw [run_of_failure?_eq_none hnext hok]
    refine List.Subset.trans ?_ ih
    rw [visited_visit]
    exact List.subset_append_left ..

/-- A scan depends on its answers at the markers that it comes to. -/
lemma run_congr (h : ∀ v ∈ (s.run answer t).visited,
      answerAt answer' t v.1 = answerAt answer t v.1) :
    s.run answer' t = s.run answer t := by
  induction s using Scan.run.induct answer t with
  | case1 s hnext => rw [run_of_next?_eq_none hnext, run_of_next?_eq_none hnext]
  | case2 s offset hnext a error =>
    rename_i hfailure
    rw [run_of_failure?_eq_some hnext hfailure] at h ⊢
    have hagree : answer' offset (t.dropBytes (offset + 1)) = a := h _ (mem_visited_visit ..)
    rw [run_of_failure?_eq_some hnext (hagree.symm ▸ hfailure), hagree]
  | case3 s offset hnext a hok =>
    rename_i ih
    rw [run_of_failure?_eq_none hnext hok] at h ⊢
    have hlast := visited_subset_run answer t _ (mem_visited_visit s t offset a)
    have hagree : answer' offset (t.dropBytes (offset + 1)) = a := h _ hlast
    rw [run_of_failure?_eq_none hnext (hagree.symm ▸ hok), hagree]
    exact ih h

end Scan

namespace Formatter

variable {f : Formatter} {e : Event} {t : Text}

/-- With other extensions a template is rendered in the same way, when the answers are the same at
the markers that the scan comes to. -/
lemma render_congr {extensions : List Extension} (h : ∀ offset behind, f.Visits e t offset behind →
      { f with extensions }.answer e offset behind = f.answer e offset behind) :
    { f with extensions }.render e t = f.render e t := by
  have hscan : { f with extensions }.scan e t = f.scan e t := by
    apply Scan.run_congr
    intro v hv
    obtain ⟨behind, hmarker, -⟩ := genuine_scan v hv
    rw [Scan.answerAt, Scan.answerAt, hmarker.dropBytes]
    exact h v.1 behind ⟨hmarker, List.mem_map_of_mem hv⟩
  simp only [render, renderByMode, renderText, hscan]

/-- The chain of extensions is asked in its order. An extension whose hooks claim nothing can be put
anywhere into it: neither the result nor the notes change, of which metrics are made. What each
marker means that the scan comes to is what the chain decides. When extensions of `xs` decide all
markers without a built-in name by their `span` hooks, it does not matter which ones come behind
`xs`; and one that claims no bytes leaves its marker where it is. When all markers have a built-in
name, no extension matters. -/
theorem render_chain (f : Formatter) (e : Event) (t : Text) :
    (∀ xs ys x, f.extensions = xs ++ ys → x.Passes e →
      { f with extensions := xs ++ x :: ys }.render e t = f.render e t) ∧
    (∀ v ∈ (f.scan e t).visited, ∃ behind, MarkerAt t v.1 behind ∧
      ∀ a, f.Decides e v.1 behind a ↔ a = v.2) ∧
    (∀ xs ys, f.extensions = xs ++ ys →
      (∀ offset behind, f.Visits e t offset behind → Builtin.find? behind = none →
        ∃ x ∈ xs, x.span e behind ≠ .ok none) →
      ∀ zs, { f with extensions := xs ++ zs }.render e t = f.render e t) ∧
    (∀ offset behind, ∀ x : Extension, ∀ s, f.Visits e t offset behind →
      Builtin.find? behind = none → x.SpeaksFirst e behind f.extensions →
      x.span e behind = .ok (some s) → s.consumed = 0 →
      (offset, .declined) ∈ (f.scan e t).visited ∧
        ((f.scan e t).failure = none → (f.scan e t).Keeps t offset)) ∧
    ((∀ offset behind, f.Visits e t offset behind → (Builtin.find? behind).isSome) →
      ∀ extensions, { f with extensions }.render e t = f.render e t) := by
  refine ⟨?_, ?_, ?_, ?_, ?_⟩
  · intro xs ys x hxs hx
    apply render_congr
    intro offset behind _
    exact answer_insert hx hxs
  · intro v hv
    obtain ⟨behind, hmarker, hanswer⟩ := genuine_scan v hv
    refine ⟨behind, hmarker, ?_⟩
    intro a
    rw [hanswer, decides_iff]
  · intro xs ys hxs hspoken zs
    apply render_congr
    intro offset behind hvisits
    cases hname : Builtin.find? behind with
    | some b => rw [answer_of_builtin hname, answer_of_builtin hname]
    | none => exact answer_of_spoken hxs hname (hspoken offset behind hvisits hname) zs
  · intro offset behind x s hvisits hname hfirst hspan hzero
    have hmem := hvisits.mem
    rw [(Decides.declined hname hfirst hspan hzero).answer_eq] at hmem
    refine ⟨hmem, ?_⟩
    intro hfailure
    exact keeps_scan hfailure _ hmem rfl
  · intro hnames extensions
    apply render_congr
    intro offset behind hvisits
    obtain ⟨b, hname⟩ := Option.isSome_iff_exists.1 (hnames offset behind hvisits)
    rw [answer_of_builtin hname, answer_of_builtin hname]

/-- Behind an extension that claims all digits, one that fails for all paths is never asked. -/
theorem render_chain_counting :
    { counting with extensions := [Extension.counting] ++ careless.extensions }.format .sample
        "$0 $1 $app_name" = .ok "$0 claimed app" ∧
      (counting.scan .sample "$0 $1 $app_name").Keeps "$0 $1 $app_name" 0 := by
  obtain ⟨-, -, hspoken, hdeclined, -⟩ := render_chain counting .sample "$0 $1 $app_name"
  have hoffsets : (counting.scan .sample "$0 $1 $app_name").visited.map (·.1) = [0, 3, 6] := by
    decide +kernel
  constructor
  · have hall : ∀ offset behind, counting.Visits .sample "$0 $1 $app_name" offset behind →
        Builtin.find? behind = none →
        ∃ x ∈ [Extension.counting], x.span .sample behind ≠ .ok none := by
      intro offset behind hvisits hname
      obtain ⟨hmarker, hmem⟩ := hvisits
      refine ⟨_, List.mem_singleton.2 rfl, ?_⟩
      intro hpasses
      rw [hoffsets] at hmem
      rw [← hmarker.dropBytes] at hname hpasses
      simp only [List.mem_cons, List.not_mem_nil, or_false] at hmem
      -- two digits, which the extension claims, and a built-in name
      rcases hmem with rfl | rfl | rfl
      · cases hpasses
      · cases hpasses
      · cases hname
    have hrender := hspoken [.counting] [] rfl hall careless.extensions
    rw [format, hrender]
    decide +kernel
  · have hvisits : counting.Visits .sample "$0 $1 $app_name" 0 "0 $1 $app_name" :=
      ⟨⟨[], rfl, rfl⟩, by rw [hoffsets]; exact List.mem_cons_self ..⟩
    have hspeaks : Extension.counting.span .sample "0 $1 $app_name" ≠ .ok none := by
      intro hpasses
      cases hpasses
    have hfirst : Extension.counting.SpeaksFirst .sample "0 $1 $app_name" [.counting] :=
      (Extension.speaksFirst_cons_of_ne hspeaks).2 rfl
    obtain ⟨-, hkeeps⟩ := hdeclined 0 _ .counting ⟨"claimed", 0⟩ hvisits rfl hfirst rfl rfl
    exact hkeeps (by decide +kernel)

end Formatter
end RuleTemplate
