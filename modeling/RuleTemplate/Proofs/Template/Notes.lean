import RuleTemplate.Metrics
import RuleTemplate.Proofs.Template.Turns
import RuleTemplate.Template.Log

/-!
# Notes on renderings

What metrics and logs are made of: the notes on a rendering are about its mode, about the scan of a
text or the script that goes to the engine, and about its end.

* `Formatter.filterMap_notes`, `Scan.filterMap_notes`: what is gathered from them.
* `Note.filter_log?_warn`, `Note.filter_log?_resolving`: which of them give certain messages.
* `Scan.count_strategies_of_slot?`, `Scan.count_unmatched`: as what markers are counted.
-/

namespace RuleTemplate

/-! ## Notes -/

/-- The warning that there is no result. -/
def FormatError.warning (error : FormatError) : LogEntry :=
  ⟨.warn, "Template rendering failed", [("error", error.message)]⟩

/-- The message that values are waited for. -/
def resolvingMessage : Text := "Resolving placeholders"

/-- It tells how many. -/
def resolving (count : Nat) : LogEntry :=
  ⟨.debug, resolvingMessage, [("placeholders", Text.ofNat count)]⟩

/-- How a template is rendered. -/
def Mode.of (t : Text) : Mode :=
  if Text.trim t = [] then .empty
  else if (Script.body? (Text.trim t)).isSome then .script
  else .text

/-- Modes have different names. -/
lemma Mode.name_injective : Function.Injective Mode.name := by
  intro a b h
  cases a <;> cases b <;> first | rfl | cases h

/-- The error of a rendering without a result. -/
def Note.failure? : Note → Option FormatError
  | .failed error => some error
  | _ => none

/-- How many values are waited for, if that is noted. -/
def Note.joined? : Note → Option Nat
  | .joined count => some count
  | _ => none

/-- The errors of a result: one or none. -/
def errors : Except FormatError Text → List FormatError
  | .ok _ => []
  | .error error => [error]

namespace Formatter

variable {f : Formatter} {e : Event} {t : Text}

lemma renderByMode_of_empty (hblank : Text.trim t = []) :
    Mode.of t = .empty ∧ f.renderByMode e t = ⟨.ok t, [.mode .empty]⟩ := by
  simp [Mode.of, renderByMode, hblank]

lemma renderByMode_of_script {body : Text} (hblank : Text.trim t ≠ [])
    (hscript : Script.body? (Text.trim t) = some body) :
    Mode.of t = .script ∧ f.renderByMode e t = ⟨(f.engine (context e) body).mapError .script,
      [.mode .script, .delegated (Text.byteSize body)]⟩ := by
  simp [Mode.of, renderByMode, hblank, hscript]

lemma renderByMode_of_text (hblank : Text.trim t ≠ [])
    (hscript : Script.body? (Text.trim t) = none) :
    Mode.of t = .text ∧ f.renderByMode e t = f.renderText e t := by
  simp [Mode.of, renderByMode, hblank, hscript]

/-- What is gathered from the notes on a rendering, but for scripts: from the mode, from the scan of
a text, and from the end. -/
lemma filterMap_notes {α : Type} {g : Note → Option α} (hdelegated : ∀ n, g (.delegated n) = none) :
    (f.render e t).notes.filterMap g = (g (.mode (Mode.of t))).toList
      ++ (if Mode.of t = .text then (f.scan e t).notes.filterMap g else [])
      ++ (closing (f.render e t).result).filterMap g := by
  have hcons : ∀ note notes,
      (note :: notes).filterMap g = (g note).toList ++ notes.filterMap g := by
    intro note notes
    rw [List.filterMap_cons]
    cases g note <;> rfl
  have hnotes : (f.render e t).notes
      = (f.renderByMode e t).notes ++ closing (f.render e t).result := rfl
  rw [hnotes, List.filterMap_append]
  congr 1
  -- one case for each mode
  by_cases hblank : Text.trim t = []
  · obtain ⟨hmode, hrender⟩ := renderByMode_of_empty (f := f) (e := e) hblank
    rw [hmode, hrender, hcons]
    rfl
  · cases hscript : Script.body? (Text.trim t) with
    | some body =>
      obtain ⟨hmode, hrender⟩ := renderByMode_of_script (f := f) (e := e) hblank hscript
      rw [hmode, hrender, hcons, hcons, hdelegated]
      rfl
    | none =>
      obtain ⟨hmode, hrender⟩ := renderByMode_of_text (f := f) (e := e) hblank hscript
      rw [hmode, hrender, renderText, hcons, if_pos rfl]

end Formatter

/-! ## In the log -/

/-- Other notes are no warnings. -/
lemma Note.filter_log?_warn (note : Note) :
    note.log?.filter (·.level = .warn) = note.failure?.map FormatError.warning := by
  cases note with
  | marker offset answer =>
    cases answer with
    | value placeholder text remaining =>
      by_cases h : remaining = [] <;> simp [log?, Answer.log?, failure?, h]
    | _ => simp [log?, Answer.log?, failure?]
  | _ => simp [log?, failure?, FormatError.warning]

/-- Other notes give other messages. -/
lemma Note.filter_log?_resolving (note : Note) :
    note.log?.filter (·.message = resolvingMessage) = note.joined?.map resolving := by
  have hmarker : ("No placeholder after marker" : Text) ≠ resolvingMessage := by decide
  have hpath : ("Placeholder path not found in event" : Text) ≠ resolvingMessage := by decide
  have hscript : ("Delegating template to script engine" : Text) ≠ resolvingMessage := by decide
  have hfailed : ("Template rendering failed" : Text) ≠ resolvingMessage := by decide
  cases note with
  | marker offset answer =>
    cases answer with
    | unmatched => exact Option.filter_some_neg (decide_eq_false hmarker)
    | value placeholder text remaining =>
      rw [log?, Answer.log?]
      split
      · rfl
      · exact Option.filter_some_neg (decide_eq_false hpath)
    | _ => rfl
  | delegated n => exact Option.filter_some_neg (decide_eq_false hscript)
  | joined count => exact Option.filter_some_pos (decide_eq_true rfl)
  | failed error => exact Option.filter_some_neg (decide_eq_false hfailed)
  | _ => rfl

/-! ## Markers -/

/-- Strategies have different names. -/
lemma Strategy.name_injective : Function.Injective Strategy.name := by
  intro a b h
  cases a <;> cases b <;> first | rfl | cases h

namespace Answer

variable {a : Answer}

/-- All markers are counted that do not fail. -/
lemma isSome_strategy?_of_failure? (h : a.failure? = none) : a.strategy?.isSome := by
  cases a with
  | failure => cases h
  | _ => rfl

lemma strategy?_eq_none {error : FormatError} (h : a.failure? = some error) :
    a.strategy? = none := by
  cases a with
  | failure => rfl
  | _ => cases h

end Answer

namespace Scan

variable {s : Scan}

/-- What is gathered from the notes on a scan: from the markers, and, unless one of them has failed,
from the values that are waited for. -/
lemma filterMap_notes {α : Type} (s : Scan) (g : Note → Option α) :
    s.notes.filterMap g = s.visited.filterMap (fun v => g (.marker v.1 v.2))
      ++ if s.failure = none then (g (.joined s.pending.length)).toList else [] := by
  rw [notes, List.filterMap_append, List.filterMap_map]
  cases s.failure with
  | some error => rfl
  | none =>
    rw [if_pos rfl]
    simp only [Option.isSome_none, Bool.false_eq_true, if_false, List.filterMap_cons,
      List.filterMap_nil]
    cases g (.joined s.pending.length) <;> rfl

/-- As what the markers are counted that were looked at. -/
def strategies (s : Scan) : List Strategy := s.visited.filterMap fun v => v.2.strategy?

lemma count_strategies (s : Scan) (strategy : Strategy) :
    s.strategies.count strategy = s.visited.countP fun v => v.2.strategy? == some strategy :=
  List.count_filterMap

/-- Each placeholder is counted as one of four kinds, and nothing else is. -/
lemma count_strategies_of_slot? (s : Scan) :
    s.strategies.count .pattern + s.strategies.count .span + s.strategies.count .path
      + s.strategies.count .value = s.visited.countP fun v => v.2.slot?.isSome := by
  simp only [count_strategies]
  induction s.visited with
  | nil => rfl
  | cons v visited ih =>
    obtain ⟨offset, a⟩ := v
    simp only [List.countP_cons, ← ih]
    cases a <;> simp [Answer.strategy?, Answer.slot?] <;> omega

/-- As long as no marker fails, those without a placeholder are counted as such. -/
lemma count_unmatched (h : ∀ v ∈ s.visited, v.2.failure? = none) :
    s.strategies.count .unmatched = s.visited.countP fun v => v.2.slot?.isNone := by
  rw [count_strategies]
  refine List.countP_congr fun v hv => ?_
  have hok := h v hv
  cases ha : v.2 with
  | failure => rw [ha] at hok; cases hok
  | _ => simp [Answer.strategy?, Answer.slot?]

end Scan

end RuleTemplate
