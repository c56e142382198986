import RuleTemplate.Number.Layout
import RuleTemplate.Template.Render

/-!
# Metrics

What is counted: renderings by mode, failures, latencies, and placeholders by strategy. A sample is
a number under a name with labels; a latency counts in the bucket of each bound that it does not
exceed. Samples belong to families, which are told in the order of their names.
-/

namespace RuleTemplate

/-- Something to be counted. -/
inductive Measurement where
  | render (mode : Text)
  | placeholder (strategy : Text)
  | failure
  | latency (seconds : Binary64)
deriving DecidableEq, Repr

/-- What a note on a rendering that took `seconds` counts as. -/
def Note.measurement? (seconds : Binary64) : Note → Option Measurement
  | .mode m => some (.render m.name)
  | .marker _ a => a.strategy?.map fun s => .placeholder s.name
  | .timed => some (.latency seconds)
  | .failed _ => some .failure
  | .delegated _ | .joined _ => none

/-- What was counted. -/
structure Metrics where
  renders : KeyMap Nat
  placeholders : KeyMap Nat
  failures : Nat
  latencies : List Binary64

namespace Metrics

/-- Nothing counted yet. -/
def empty : Metrics := ⟨.empty, .empty, 0, []⟩

/-- One more under a label. -/
def tick (counts : KeyMap Nat) (label : Text) : KeyMap Nat :=
  counts.insert label ((counts.get? label).getD 0 + 1)

/-- Counts a measurement. -/
def record (m : Metrics) : Measurement → Metrics
  | .render mode => { m with renders := tick m.renders mode }
  | .placeholder strategy => { m with placeholders := tick m.placeholders strategy }
  | .failure => { m with failures := m.failures + 1 }
  | .latency seconds => { m with latencies := seconds :: m.latencies }

/-- Counts all measurements of a list. -/
def recordAll (m : Metrics) (measurements : List Measurement) : Metrics :=
  measurements.foldl record m

/-- The metrics of one rendering that took `seconds`. -/
def ofRendering (seconds : Binary64) (r : Rendering) : Metrics :=
  empty.recordAll (r.notes.filterMap (Note.measurement? seconds))

/-! ## Samples -/

/-- What all names begin with. -/
def scope : Text := "rule_formatter_"

/-- One character of the value of a label. -/
def labelChar (c : Char) : Text :=
  if c = '\\' then "\\\\" else if c = '"' then "\\\"" else if c = '\n' then "\\n" else [c]

/-- The name of a sample with one label. -/
def labelled (name label value : Text) : Text :=
  name ++ '\x7b' :: label ++ '=' :: '"' :: value.flatMap labelChar ++ ("\"\x7d" : Text)

/-- The samples of a counter with one label, in the order of its values. -/
def counter (name label : Text) (counts : KeyMap Nat) : List (Text × Nat) :=
  counts.entries.map fun e => (labelled name label e.1, e.2)

/-- The bounds of the buckets: 0.0001, 0.0005, 0.001, 0.005, 0.01, 0.05, 0.1, 0.5 and 1. -/
def bounds : List Binary64 :=
  [(1, -4), (5, -4), (1, -3), (5, -3), (1, -2), (5, -2), (1, -1), (5, -1), (1, 0)].filterMap
    fun (significand, exponent) => Binary64.ofDecimalNearest? false significand exponent

/-- The samples of latencies: those up to each bound, and all. -/
def histogram (name : Text) (latencies : List Binary64) : List (Text × Nat) :=
  let bucket := name ++ ("_bucket" : Text)
  if latencies = [] then []
  else
    bounds.map (fun bound => (labelled bucket "le" (Layout.plain.binary64 bound),
      latencies.countP (Binary64.le · bound)))
    ++ [(labelled bucket "le" "+Inf", latencies.length),
      (name ++ ("_count" : Text), latencies.length)]

/-! ## Families -/

/-- Samples that belong together. -/
structure Family where
  name : Text
  description : Text
  kind : Text
  samples : Metrics → List (Text × Nat)

/-- The name of a family. -/
def named (name : Text) : Text := scope ++ name

/-- The families in the order of their names. -/
def families : List Family :=
  [ { name := named "placeholders_total"
      description := "Total placeholders by resolution strategy"
      kind := "counter"
      samples := fun m => counter (named "placeholders_total") "strategy" m.placeholders },
    { name := named "render_failures_total"
      description := "Total renders that failed"
      kind := "counter"
      samples := fun m =>
        if m.failures = 0 then [] else [(named "render_failures_total", m.failures)] },
    { name := named "render_latency_seconds"
      description := "Template render latency in seconds"
      kind := "histogram"
      samples := fun m => histogram (named "render_latency_seconds") m.latencies },
    { name := named "renders_total"
      description := "Total templates rendered"
      kind := "counter"
      samples := fun m => counter (named "renders_total") "mode" m.renders } ]

/-- The two lines that say what a family is. -/
def Family.help (f : Family) : List Text :=
  ["# HELP " ++ f.name ++ ' ' :: f.description, "# TYPE " ++ f.name ++ ' ' :: f.kind]

/-- All samples, family by family. -/
def samples (m : Metrics) : List (Text × Nat) := families.flatMap fun f => f.samples m

/-- The line of a sample. -/
def sampleLine (s : Text × Nat) : Text := s.1 ++ ' ' :: Text.ofNat s.2

/-- The lines that tell of all families that have samples. -/
def lines (m : Metrics) : List Text :=
  families.flatMap fun f =>
    let samples := f.samples m
    if samples = [] then [] else f.help ++ samples.map sampleLine

end Metrics

end RuleTemplate
