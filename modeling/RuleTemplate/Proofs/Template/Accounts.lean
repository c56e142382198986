import Mathlib.Data.List.Count
import Mathlib.Data.List.Induction
import RuleTemplate.Proofs.Template.Notes
import RuleTemplate.Proofs.Template.Safety

/-!
# What is counted and logged

Metrics count what is noted on renderings, one after the other. `Call.Counted` says what one more
rendering adds to them, and what it logs: one rendering and one latency in any case, a failure with
a warning when there is no result, and each marker that the scan has gone behind once.

* `Metrics.total_recordAll`: metrics are counts of measurements.
* `Call.measurements_eq`: all that is counted of a call.
* `Metrics.ofCalls_counted`: what is counted of any calls.
-/

namespace RuleTemplate

/-! ## Counts -/

namespace Metrics

/-- How often something was counted. -/
def total (m : Metrics) : Measurement → Nat
  | .render mode => (m.renders.get? mode).getD 0
  | .placeholder strategy => (m.placeholders.get? strategy).getD 0
  | .failure => m.failures
  | .latency seconds => m.latencies.count seconds

lemma get?_tick (counts : KeyMap Nat) (label other : Text) :
    ((tick counts label).get? other).getD 0
      = (counts.get? other).getD 0 + if label = other then 1 else 0 := by
  unfold tick
  by_cases h : label = other
  · rw [← h, KeyMap.get?_insert_self, if_pos rfl]
    rfl
  · rw [KeyMap.get?_insert_of_ne _ _ (Ne.symm h), if_neg h, Nat.add_zero]

/-- A measurement is counted as itself and as nothing else. -/
lemma total_record (m : Metrics) (x y : Measurement) :
    (m.record y).total x = m.total x + if y = x then 1 else 0 := by
  cases y <;> cases x <;> simp [record, total, get?_tick, List.count_cons]

/-- Metrics are counts. -/
lemma total_recordAll (m : Metrics) (x : Measurement) (measurements : List Measurement) :
    (m.recordAll measurements).total x = m.total x + measurements.count x := by
  induction measurements generalizing m with
  | nil => rfl
  | cons y measurements ih =>
    have hrest : m.recordAll (y :: measurements) = (m.record y).recordAll measurements := rfl
    rw [hrest, ih, total_record, List.count_cons]
    by_cases h : y = x
    · simp [h]
      omega
    · simp [h]

end Metrics

/-- The time that was taken, if a time was. -/
def Measurement.seconds? : Measurement → Option Binary64
  | .latency seconds => some seconds
  | _ => none

lemma Metrics.latencies_recordAll (m : Metrics) (measurements : List Measurement) :
    (m.recordAll measurements).latencies
      = (measurements.filterMap Measurement.seconds?).reverse ++ m.latencies := by
  induction measurements generalizing m with
  | nil => rfl
  | cons y measurements ih =>
    have hrest : m.recordAll (y :: measurements) = (m.record y).recordAll measurements := rfl
    rw [hrest, ih, List.filterMap_cons]
    cases y <;> simp [record, Measurement.seconds?]

/-! ## Calls -/

/-- A template to be rendered, and how long that takes. -/
structure Call where
  formatter : Formatter
  event : Event
  template : Text
  seconds : Binary64

namespace Call

variable {c : Call}

/-- What comes of the call. -/
def rendering (c : Call) : Rendering := c.formatter.render c.event c.template

def mode (c : Call) : Mode := Mode.of c.template

/-- The scan of the template, which is made when that is a text. -/
def scan (c : Call) : Scan := c.formatter.scan c.event c.template

/-- What is counted. -/
def measurements (c : Call) : List Measurement :=
  c.rendering.notes.filterMap (Note.measurement? c.seconds)

/-- As what markers are counted: only a text has any. -/
def strategies (c : Call) : List Strategy := if c.mode = .text then c.scan.strategies else []

/-- What is gathered from the notes on a call, but for scripts. -/
lemma filterMap_notes {α : Type} (c : Call) {g : Note → Option α}
    (hdelegated : ∀ n, g (.delegated n) = none) :
    c.rendering.notes.filterMap g = (g (.mode c.mode)).toList
      ++ (if c.mode = .text then c.scan.notes.filterMap g else [])
      ++ (Formatter.closing c.rendering.result).filterMap g := Formatter.filterMap_notes hdelegated

/-- All that is counted of a rendering. -/
lemma measurements_eq : c.measurements = .render c.mode.name ::
    ((c.strategies.map Strategy.name).map .placeholder
      ++ .latency c.seconds :: List.replicate (errors c.rendering.result).length .failure) := by
  have hscan : (if c.mode = .text then c.scan.notes.filterMap (Note.measurement? c.seconds) else [])
      = (c.strategies.map Strategy.name).map .placeholder := by
    unfold strategies
    by_cases hmode : c.mode = .text
    · rw [if_pos hmode, if_pos hmode, Scan.filterMap_notes, Scan.strategies, List.map_map,
        List.map_filterMap]
      simp [Note.measurement?, Function.comp_def]
    · rw [if_neg hmode, if_neg hmode]
      rfl
  have hclosing : (Formatter.closing c.rendering.result).filterMap (Note.measurement? c.seconds)
      = .latency c.seconds :: List.replicate (errors c.rendering.result).length .failure := by
    cases c.rendering.result <;> rfl
  rw [measurements, filterMap_notes c fun _ => rfl, hscan, hclosing]
  rfl

/-- There is a warning exactly when there is no result. -/
lemma warnings_eq : c.rendering.log.filter (·.level = .warn)
    = (errors c.rendering.result).map FormatError.warning := by
  have hscan : c.scan.notes.filterMap Note.failure? = [] := by
    rw [Scan.filterMap_notes]
    simp [Note.failure?]
  have hclosing : (Formatter.closing c.rendering.result).filterMap Note.failure?
      = errors c.rendering.result := by
    cases c.rendering.result <;> rfl
  rw [Rendering.log, List.filter_filterMap]
  simp only [Note.filter_log?_warn]
  rw [← List.map_filterMap, filterMap_notes c fun _ => rfl, hscan, ite_self, hclosing]
  rfl

/-- The number of values that are waited for is told when they are waited for. -/
lemma resolving_eq : c.rendering.log.filter (·.message = resolvingMessage)
    = if c.mode = .text ∧ c.scan.failure = none then [resolving c.scan.pending.length] else [] := by
  have hscan : c.scan.notes.filterMap Note.joined?
      = if c.scan.failure = none then [c.scan.pending.length] else [] := by
    rw [Scan.filterMap_notes]
    simp [Note.joined?]
  have hclosing : (Formatter.closing c.rendering.result).filterMap Note.joined? = [] := by
    cases c.rendering.result <;> rfl
  rw [Rendering.log, List.filter_filterMap]
  simp only [Note.filter_log?_resolving]
  rw [← List.map_filterMap, filterMap_notes c fun _ => rfl, hscan, hclosing, ← ite_and]
  split <;> rfl

/-! ### How much is counted -/

lemma count_measurements (c : Call) (x : Measurement) :
    c.measurements.count x = (if .render c.mode.name = x then 1 else 0)
      + ((c.strategies.map Strategy.name).map .placeholder).count x
      + (if .latency c.seconds = x then 1 else 0)
      + if .failure = x then (errors c.rendering.result).length else 0 := by
  rw [measurements_eq, List.count_cons, List.count_append, List.count_cons, List.count_replicate]
  simp only [beq_iff_eq]
  omega

/-- Placeholders are not counted as anything else. -/
lemma count_map_placeholder {labels : List Text} {x : Measurement}
    (hx : ∀ label, Measurement.placeholder label ≠ x) :
    (labels.map Measurement.placeholder).count x = 0 := by
  rw [List.count_eq_zero]
  intro hmem
  obtain ⟨label, -, h⟩ := List.mem_map.1 hmem
  exact hx label h

lemma count_render (c : Call) (label : Text) :
    c.measurements.count (.render label) = if c.mode.name = label then 1 else 0 := by
  have hne : ∀ strategy, Measurement.placeholder strategy ≠ .render label := fun _ h => nomatch h
  rw [count_measurements, count_map_placeholder hne]
  simp

lemma count_failure (c : Call) :
    c.measurements.count .failure = (errors c.rendering.result).length := by
  have hne : ∀ strategy, Measurement.placeholder strategy ≠ .failure := fun _ h => nomatch h
  rw [count_measurements, count_map_placeholder hne]
  simp

lemma count_placeholder (c : Call) (label : Text) :
    c.measurements.count (.placeholder label) = (c.strategies.map Strategy.name).count label := by
  have hinj : Function.Injective Measurement.placeholder :=
    fun _ _ h => Measurement.placeholder.inj h
  rw [count_measurements, List.count_map_of_injective _ _ hinj]
  simp

/-- One time is taken. -/
lemma filterMap_seconds?_measurements (c : Call) :
    c.measurements.filterMap Measurement.seconds? = [c.seconds] := by
  have hplaceholders : ((c.strategies.map Strategy.name).map Measurement.placeholder).filterMap
      Measurement.seconds? = [] := by
    rw [List.filterMap_eq_nil_iff]
    simp [Measurement.seconds?]
  have hlatency : Measurement.seconds? (.latency c.seconds) = some c.seconds := rfl
  rw [measurements_eq, List.filterMap_cons_none rfl, List.filterMap_append, hplaceholders,
    List.filterMap_cons_some hlatency, List.filterMap_replicate_of_none rfl]
  rfl

end Call

/-! ## What a call adds -/

namespace Metrics

/-- How many markers were counted as of a strategy. -/
def counted (m : Metrics) (strategy : Strategy) : Nat := m.total (.placeholder strategy.name)

/-- How many placeholders were given a value. -/
def replaced (m : Metrics) : Nat :=
  m.counted .pattern + m.counted .span + m.counted .path + m.counted .value

/-- Counts a call. -/
def count (m : Metrics) (c : Call) : Metrics := m.recordAll c.measurements

/-- The metrics of calls, one after the other. -/
def ofCalls (calls : List Call) : Metrics := calls.foldl count empty

/-- The program makes one call. -/
lemma ofCalls_append (calls : List Call) (c : Call) :
    ofCalls (calls ++ [c]) = (ofCalls calls).count c := List.foldl_concat ..

lemma counted_count (m : Metrics) (c : Call) (strategy : Strategy) :
    (m.count c).counted strategy = m.counted strategy + c.strategies.count strategy := by
  rw [counted, count, total_recordAll, Call.count_placeholder,
    List.count_map_of_injective _ _ Strategy.name_injective]
  rfl

end Metrics

namespace Call

variable {c : Call}

/-- What the call `c` adds to the metrics `m`, which become `m'`, and what it logs. -/
structure Counted (c : Call) (m m' : Metrics) : Prop where
  /-- One rendering in the mode of the template. -/
  render : ∀ label,
    m'.total (.render label) = m.total (.render label) + if c.mode.name = label then 1 else 0
  /-- One latency. -/
  latency : m'.latencies = c.seconds :: m.latencies
  /-- One failure if there is no result. -/
  failure : m'.failures = m.failures + (errors c.rendering.result).length
  warning : c.rendering.log.filter (·.level = .warn)
    = (errors c.rendering.result).map FormatError.warning
  /-- No marker of a template that is no text. -/
  unscanned : c.mode ≠ .text →
    ∀ label, m'.total (.placeholder label) = m.total (.placeholder label)
  /-- One placeholder for each value that is waited for, and one unmatched marker for each that
  stays. -/
  scanned : c.mode = .text → c.scan.failure = none →
    m'.replaced = m.replaced + c.scan.pending.length ∧
    c.rendering.log.filter (·.message = resolvingMessage) = [resolving c.scan.pending.length] ∧
    m'.counted .unmatched
      = m.counted .unmatched + c.scan.visited.countP (fun v => v.2.slot?.isNone) ∧
    c.scan.visited.countP (fun v => v.2.slot?.isNone) = c.scan.literals.count marker
  /-- When the last marker fails, one for each of the others. -/
  broken : c.mode = .text → ∀ error, c.scan.failure = some error →
    c.rendering.log.filter (·.message = resolvingMessage) = [] ∧
    ∃ before last, c.scan.visited = before ++ [last] ∧ last.2.failure? = some error ∧
      (∀ v ∈ before, v.2.strategy?.isSome) ∧
      ∀ strategy, m'.counted strategy
        = m.counted strategy + before.countP fun v => v.2.strategy? == some strategy

lemma scanned_count (m : Metrics) (hmode : c.mode = .text) (hok : c.scan.failure = none) :
    (m.count c).replaced = m.replaced + c.scan.pending.length ∧
    c.rendering.log.filter (·.message = resolvingMessage) = [resolving c.scan.pending.length] ∧
    (m.count c).counted .unmatched
      = m.counted .unmatched + c.scan.visited.countP (fun v => v.2.slot?.isNone) ∧
    c.scan.visited.countP (fun v => v.2.slot?.isNone) = c.scan.literals.count marker := by
  have hstrategies : c.strategies = c.scan.strategies := if_pos hmode
  refine ⟨?_, ?_, ?_, (Formatter.count_literals_scan hok).symm⟩
  · -- the placeholders are those that wait for a value, and those of the four strategies
    have htidy : c.scan.Tidy := Formatter.tidy_scan ..
    have hpending : c.scan.pending.length = c.scan.visited.countP fun v => v.2.slot?.isSome := by
      rw [htidy.pending_eq, List.length_filterMap_eq_countP]
      simp only [Option.isSome_map]
    rw [hpending, ← Scan.count_strategies_of_slot?]
    simp only [Metrics.replaced, Metrics.counted_count, hstrategies]
    omega
  · rw [resolving_eq, if_pos ⟨hmode, hok⟩]
  · rw [Metrics.counted_count, hstrategies]
    exact congrArg _ (Scan.count_unmatched (Formatter.failure?_of_mem_scan hok))

lemma broken_count (m : Metrics) (hmode : c.mode = .text) {error : FormatError}
    (hfailure : c.scan.failure = some error) :
    ∃ before last, c.scan.visited = before ++ [last] ∧ last.2.failure? = some error ∧
      (∀ v ∈ before, v.2.strategy?.isSome) ∧
      ∀ strategy, (m.count c).counted strategy
        = m.counted strategy + before.countP fun v => v.2.strategy? == some strategy := by
  obtain ⟨before, last, hvisited, hlast, hbefore⟩ :=
    Formatter.exists_last_of_failure_scan hfailure
  have hvisited' : c.scan.visited = before ++ [last] := hvisited
  have hstrategies : c.strategies = c.scan.strategies := if_pos hmode
  refine ⟨before, last, hvisited', hlast, ?_, ?_⟩
  · intro v hv
    exact Answer.isSome_strategy?_of_failure? (hbefore v hv)
  · intro strategy
    rw [Metrics.counted_count, hstrategies, Scan.count_strategies, hvisited', List.countP_append,
      List.countP_singleton, Answer.strategy?_eq_none hlast]
    rfl

lemma counted (m : Metrics) (c : Call) : c.Counted m (m.count c) where
  render label := by rw [Metrics.count, Metrics.total_recordAll, count_render]
  latency := by
    rw [Metrics.count, Metrics.latencies_recordAll, filterMap_seconds?_measurements]
    rfl
  failure := by
    have htotal := Metrics.total_recordAll m .failure c.measurements
    rwa [count_failure] at htotal
  warning := warnings_eq
  unscanned hmode label := by
    rw [Metrics.count, Metrics.total_recordAll, count_placeholder, strategies, if_neg hmode]
    rfl
  scanned := scanned_count m
  broken hmode error herror := by
    refine ⟨?_, broken_count m hmode herror⟩
    rw [resolving_eq, if_neg]
    rintro ⟨-, hok⟩
    rw [hok] at herror
    cases herror

end Call

namespace Metrics

/-- What is counted of any calls: each adds what is counted of it, whatever was counted before. -/
theorem ofCalls_counted (calls : List Call) :
    (∀ c : Call, c.Counted (ofCalls calls) (ofCalls (calls ++ [c]))) ∧
    (∀ mode : Mode, (ofCalls calls).total (.render mode.name) = calls.countP (·.mode = mode)) ∧
    (ofCalls calls).latencies.length = calls.length ∧
    (ofCalls calls).failures = (calls.flatMap fun c => errors c.rendering.result).length := by
  have hstep : ∀ calls (c : Call), c.Counted (ofCalls calls) (ofCalls (calls ++ [c])) := by
    intro calls c
    rw [ofCalls_append]
    exact Call.counted _ c
  refine ⟨hstep calls, ?_⟩
  -- on the last call, which adds to the counts of those before it
  induction calls using List.reverseRecOn with
  | nil => exact ⟨fun _ => rfl, rfl, rfl⟩
  | append_singleton calls c ih =>
    obtain ⟨hrenders, hlatencies, hfailures⟩ := ih
    have hcounted := hstep calls c
    refine ⟨?_, ?_, ?_⟩
    · intro mode
      rw [hcounted.render, hrenders, List.countP_append, List.countP_singleton]
      simp [Mode.name_injective.eq_iff]
    · rw [hcounted.latency, List.length_cons, hlatencies, List.length_append]
      rfl
    · rw [hcounted.failure, hfailures, List.flatMap_append, List.length_append]
      simp

end Metrics

/-- A template for a formatter whose extension claims bytes. -/
def Call.counting (template : Text) : Call := ⟨.counting, .sample, template, .zero false⟩

namespace Metrics

/-- Behind a blank template and a script without an engine: a text with a claim and a marker that
stays, and a text whose second claim ends within a character. -/
theorem ofCalls_counted_counting :
    (ofCalls [.counting " ", .counting "Script(1)", .counting "$3é $"]).replaced = 1 ∧
    (ofCalls [.counting " ", .counting "Script(1)", .counting "$3é $"]).failures = 1 ∧
    (ofCalls [.counting " ", .counting "Script(1)", .counting "$0 $2é $"]).counted .unmatched
      = 1 := by
  obtain ⟨hcounted, -, -, hfailures⟩ := ofCalls_counted [.counting " ", .counting "Script(1)"]
  have hclaims := hcounted (.counting "$3é $")
  obtain ⟨hreplaced, -⟩ := hclaims.scanned (by decide) (by decide +kernel)
  obtain ⟨-, before, last, hvisited, -, -, hbefore⟩ :=
    (hcounted (.counting "$0 $2é $")).broken (by decide) (.invalidSpan 3 2) (by decide +kernel)
  have hdropLast : (Call.counting "$0 $2é $").scan.visited.dropLast = before := by
    rw [hvisited, List.dropLast_concat]
  refine ⟨hreplaced.trans ?_, hclaims.failure.trans ?_, (hbefore .unmatched).trans ?_⟩
  · decide +kernel
  · rw [hfailures]
    decide +kernel
  · rw [← hdropLast]
    decide +kernel

end Metrics

end RuleTemplate
