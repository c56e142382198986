import RuleTemplate.Text.Basic

/-!
# Placeholders by path

Behind a marker, a placeholder is a kind, an underscore and a path. It stands in braces, and then
ends with the last closing brace before the next blank; or it ends at the next blank itself. The
kind is all that comes before the first underscore. The path is split at its points, and empty
segments are dropped.
-/

namespace RuleTemplate

/-- A placeholder by path. -/
structure Placeholder where
  kind : Text
  path : List Text
  /-- The text of the placeholder, without the marker. -/
  source : Text
deriving DecidableEq, Repr

namespace Placeholder

/-- The number of bytes behind the marker. -/
def size (p : Placeholder) : Nat := Text.byteSize p.source

/-- The segments of a path. -/
def segments (path : Text) : List Text := (Text.splitAt '.' path).filter (· ≠ [])

/-- The text in front of the last closing brace. -/
def beforeBrace? : Text → Option Text
  | [] => none
  | c :: t =>
    match beforeBrace? t with
    | some path => some (c :: path)
    | none => if c = '\x7d' then some [] else none

theorem eq_of_beforeBrace? {t path : Text} (h : beforeBrace? t = some path) :
    ∃ rest, t = path ++ '\x7d' :: rest := by
  induction t generalizing path with
  | nil => simp [beforeBrace?] at h
  | cons c t ih =>
    rw [beforeBrace?] at h
    split at h
    · next inner hi =>
      obtain ⟨rest, rfl⟩ := ih hi
      cases h
      exact ⟨rest, rfl⟩
    · split at h
      · next hc => cases h; exact ⟨t, by simp [hc]⟩
      · simp at h

/-- The placeholder at the start of a text, its braces or the lack of them given by `closed?`, which
finds the path in the run of characters up to the next blank. -/
def delimited? (opening closing : Text) (closed? : Text → Option Text) (t : Text) :
    Option Placeholder := do
  let behind ← Text.stripLead? opening t
  let kind := behind.takeWhile (· ≠ '_')
  let rest ← Text.stripLead? ['_'] (behind.dropWhile (· ≠ '_'))
  let path ← closed? (rest.takeWhile fun c => !Text.isBlank c)
  return ⟨kind, segments path, opening ++ kind ++ '_' :: path ++ closing⟩

/-- The placeholder in braces at the start of a text. -/
def braced? (t : Text) : Option Placeholder := delimited? ['\x7b'] ['\x7d'] beforeBrace? t

/-- The placeholder without braces at the start of a text. -/
def bare? (t : Text) : Option Placeholder := delimited? [] [] some t

/-- The placeholder at the start of a text; braces are tried first. -/
def parse? (t : Text) : Option Placeholder := braced? t <|> bare? t

/-- A placeholder is read off the start of the text, when its end is. -/
theorem eq_source_append_of_delimited? {opening closing : Text} {closed? : Text → Option Text}
    (hclosed : ∀ run path, closed? run = some path → ∃ rest, run = path ++ closing ++ rest)
    {t : Text} {p : Placeholder} (h : delimited? opening closing closed? t = some p) :
    ∃ rest, t = p.source ++ rest := by
  simp only [delimited?, Option.bind_eq_bind, Option.bind_eq_some_iff] at h
  obtain ⟨behind, hb, rest, hr, path, hp, hs⟩ := h
  cases hs
  obtain ⟨more, hm⟩ := hclosed _ _ hp
  have hkind := List.takeWhile_append_dropWhile (p := (· ≠ '_')) (l := behind)
  have hrun := List.takeWhile_append_dropWhile (p := fun c => !Text.isBlank c) (l := rest)
  rw [Text.stripLead?_eq_some_iff.1 hr] at hkind
  rw [hm] at hrun
  -- what follows the placeholder is what the path leaves of its run, and what stopped the run
  refine ⟨more ++ rest.dropWhile fun c => !Text.isBlank c, ?_⟩
  calc
    t = opening ++ behind := Text.stripLead?_eq_some_iff.1 hb
    _ = opening ++ (behind.takeWhile (· ≠ '_') ++ '_' :: rest) := congrArg _ hkind.symm
    _ = opening ++ (behind.takeWhile (· ≠ '_') ++ '_' :: (path ++ closing ++ more
          ++ rest.dropWhile fun c => !Text.isBlank c)) := by rw [hrun]
    _ = _ := by simp

theorem eq_source_append_of_parse? {t : Text} {p : Placeholder} (h : parse? t = some p) :
    ∃ rest, t = p.source ++ rest := by
  rcases Option.or_eq_some_iff.1 (Option.orElse_eq_or.symm.trans h) with h | ⟨-, h⟩
  · refine eq_source_append_of_delimited? (fun run path hp => ?_) h
    obtain ⟨rest, rfl⟩ := eq_of_beforeBrace? hp
    exact ⟨rest, by simp⟩
  · exact eq_source_append_of_delimited? (fun run path hp => ⟨[], by cases hp; simp⟩) h

end Placeholder

end RuleTemplate
