import RuleTemplate.Event.Basic
import RuleTemplate.Template.Pending

/-!
# Extensions

An extension adds placeholders of its own. Its `span` hook is shown the text behind a marker and may
claim the beginning of it; its `path` hook is shown the path of a placeholder and may claim that.
What a path is replaced by may have to be waited for.
-/

namespace RuleTemplate

/-- What a `span` hook claims: the number of bytes behind the marker, and what to put in place of
them. -/
structure SpanMatch where
  replacement : Text
  consumed : Nat
deriving DecidableEq, Repr

/-- Two hooks; each may leave what it is shown to others. -/
structure Extension where
  span : Event → Text → Except FormatError (Option SpanMatch)
  path : Event → List Text → Option Pending

/-! ## Extensions described by rules -/

/-- How much a rule for spans claims: so many bytes, or so many beyond the end of the text. -/
inductive SpanRule.Extent where
  | bytes (count : Nat)
  | beyond (count : Nat)

/-- Claims the texts that begin with `lead`. -/
structure SpanRule where
  lead : Text
  /-- The reason to fail, if it does. -/
  failure : Option Text
  /-- What to put in place; without it the kind of the event and the text are put between angle
  brackets. -/
  replacement : Option Text
  extent : SpanRule.Extent

/-- The hook that a rule for spans describes. -/
def SpanRule.hook (r : SpanRule) (e : Event) (t : Text) : Except FormatError (Option SpanMatch) :=
  match Text.stripLead? r.lead t, r.failure with
  | none, _ => .ok none
  | some _, some reason => .error (.extension reason)
  | some _, none =>
    .ok (some {
      replacement := r.replacement.getD ('<' :: e.kind.name ++ '|' :: t ++ ['>'])
      consumed := match r.extent with
        | .bytes n => n
        | .beyond n => n + Text.byteSize t })

/-- What a rule for paths puts in place of a placeholder. -/
inductive PathRule.Value where
  | failure (reason : Text)
  /-- The segments with a text between each two. -/
  | joined (separator : Text)
  | text (value : Option Text)

/-- Claims paths, either all of them or those with a given first segment. -/
structure PathRule where
  first : Option Text
  value : PathRule.Value
  /-- How many polls it lets pass. -/
  polls : Nat

/-- The hook that a rule for paths describes. -/
def PathRule.hook (r : PathRule) (_ : Event) (path : List Text) : Option Pending :=
  if r.first.isSome ∧ r.first ≠ path.head? then none
  else some ⟨r.polls, match r.value with
    | .failure reason => .error (.extension reason)
    | .joined separator => .ok (some (Text.joinWith separator path))
    | .text value => .ok value⟩

/-- The extension of rules, either of which may be missing. -/
def Extension.ofRules (span : Option SpanRule) (path : Option PathRule) : Extension where
  span e t := match span with
    | some r => r.hook e t
    | none => .ok none
  path e p := path.bind fun r => r.hook e p

end RuleTemplate
