import RuleTemplate.Command.Run
import RuleTemplate.Proofs.Command.Arguments
import RuleTemplate.Proofs.Files
import RuleTemplate.Proofs.Template.Scripts

/-!
# What a run comes to

Several things can be wrong with a run at once: the file of the event, the file of the template, the
template itself, or that there is none. `Comes` has a case for each thing that can decide a run, by
what the arguments give and what the files hold, and each case excludes those before it. A run comes
to that and nothing else (`run_comes`), and the program shows what its run comes to.
-/

namespace RuleTemplate.Command

/-- Whether a file holds the text of an event. -/
def HoldsEvent (files : Files) (name : Text) (e : Event) : Prop :=
  ∃ t : Text, files name = some t.utf8 ∧ Event.read t = .ok e

/-- Why a file holds no event: it cannot be read, or its text is not that of an event. -/
inductive NoEvent (files : Files) (name : Text) : Failure → Prop where
  | file {fault : FileFault} (h : files.Unreadable name fault) : NoEvent files name (.file fault)
  | event {t : Text} {fault : Event.Fault} (h : files name = some t.utf8)
      (hread : Event.read t = .error fault) : NoEvent files name (.event fault)

/-- Whether arguments give a template, as it stands or by a file that holds its UTF-8 form. -/
def GivesTemplate (arguments : List Text) (files : Files) (t : Text) : Prop :=
  Gives arguments .template t ∨
    ∃ name, Gives arguments .templateFile name ∧ files name = some t.utf8

/-- What a run comes to. -/
inductive Comes (arguments : List Text) (s : Settings) (files : Files) : Except Failure Text → Prop
  where
  /-- Without an event, nothing else matters. -/
  | noEvent {name : Text} {failure : Failure} (hname : Gives arguments .event name)
      (hevent : NoEvent files name failure) : Comes arguments s files (.error failure)
  /-- The envelope needs no template. -/
  | envelope {name : Text} {e : Event} (hname : Gives arguments .event name)
      (hevent : HoldsEvent files name e) (hflag : Flag.envelope.argument ∈ arguments) :
      Comes arguments s files (.ok e.envelope)
  | template {name t : Text} {e : Event} (hname : Gives arguments .event name)
      (hevent : HoldsEvent files name e) (hflag : Flag.envelope.argument ∉ arguments)
      (htemplate : GivesTemplate arguments files t) :
      Comes arguments s files
        ((Formatter.format ⟨.below s.urls.baseUrl, .disabled, []⟩ e t).mapError .format)
  | noFile {name file : Text} {e : Event} {fault : FileFault} (hname : Gives arguments .event name)
      (hevent : HoldsEvent files name e) (hflag : Flag.envelope.argument ∉ arguments)
      (hfile : Gives arguments .templateFile file) (hfault : files.Unreadable file fault) :
      Comes arguments s files (.error (.file fault))
  | noTemplate {name : Text} {e : Event} (hname : Gives arguments .event name)
      (hevent : HoldsEvent files name e) (hflag : Flag.envelope.argument ∉ arguments)
      (htext : ∀ v, ¬ Gives arguments .template v)
      (hfile : ∀ v, ¬ Gives arguments .templateFile v) :
      Comes arguments s files (.error .noTemplate)

variable {arguments : List Text} {o : Options} {s : Settings} {files : Files} {name t : Text}
  {e : Event} {failure : Failure} {r : Except Failure Text}

/-! ## What is read -/

lemma HoldsEvent.readEvent_eq (h : HoldsEvent files name e) : readEvent files name = .ok e := by
  obtain ⟨t, htext, hread⟩ := h
  rw [readEvent, Files.text_eq_ok_iff.2 htext]
  simp only [Except.mapError, Results.ok_bind, hread]

lemma NoEvent.readEvent_eq (h : NoEvent files name failure) :
    readEvent files name = .error failure := by
  rcases h with hfault | ⟨htext, hread⟩
  · rw [readEvent, Files.text_eq_error_iff.2 hfault]
    rfl
  · rw [readEvent, Files.text_eq_ok_iff.2 htext]
    simp only [Except.mapError, Results.ok_bind, hread]

/-- A file holds an event, or there is a reason why it does not. -/
lemma holdsEvent_or_noEvent (files : Files) (name : Text) :
    (∃ e, HoldsEvent files name e) ∨ ∃ failure, NoEvent files name failure := by
  cases htext : files.text name with
  | error fault => exact .inr ⟨_, .file (Files.text_eq_error_iff.1 htext)⟩
  | ok t =>
    cases hread : Event.read t with
    | error fault => exact .inr ⟨_, .event (Files.text_eq_ok_iff.1 htext) hread⟩
    | ok e => exact .inl ⟨e, t, Files.text_eq_ok_iff.1 htext, hread⟩

section
variable (h : Options.read arguments = .ok o)
include h

lemma event_eq (hname : Gives arguments .event name) : o.event = name :=
  Option.some.inj ((Options.read_value h .event name).2 hname)

lemma template_eq_none (hnone : ∀ v, ¬ Gives arguments .template v) : o.template = none :=
  Option.eq_none_iff_forall_ne_some.2 fun v hv =>
    hnone v ((Options.read_value h .template v).1 hv)

lemma templateFile_eq_none (hnone : ∀ v, ¬ Gives arguments .templateFile v) :
    o.templateFile = none :=
  Option.eq_none_iff_forall_ne_some.2 fun v hv =>
    hnone v ((Options.read_value h .templateFile v).1 hv)

/-- Where there is a file for the template, there is no other template. -/
lemma template_eq_none_of_file (hfile : Gives arguments .templateFile name) :
    o.template = none ∧ o.templateFile = some name := by
  have hsome : o.templateFile = some name := (Options.read_value h .templateFile name).2 hfile
  refine ⟨(Options.read_template h).resolve_right ?_, hsome⟩
  rw [hsome]
  simp

lemma readTemplate_eq (ht : GivesTemplate arguments files t) : readTemplate files o = .ok t := by
  rcases ht with htext | ⟨name, hfile, hbytes⟩
  · have hsome : o.template = some t := (Options.read_value h .template t).2 htext
    rw [readTemplate, hsome]
  · obtain ⟨hnone, hsome⟩ := template_eq_none_of_file h hfile
    rw [readTemplate, hnone, hsome]
    simp only [Files.text_eq_ok_iff.2 hbytes]
    rfl

end

/-! ## What is done with it -/

/-- A run reads the event first, and the template only if it is needed. -/
lemma run_eq (o : Options) (s : Settings) (files : Files) :
    run o s files = (readEvent files o.event).bind fun e =>
      if o.envelope then .ok e.envelope
      else (readTemplate files o).bind fun t => ((formatter s).format e t).mapError .format := by
  unfold run produce
  cases readEvent files o.event with
  | error failure => rfl
  | ok e =>
    simp only [Results.ok_bind, Except.bind]
    split
    · rfl
    · cases readTemplate files o with
      | error failure => rfl
      | ok t =>
        simp only [Results.ok_bind]
        unfold Formatter.format
        cases ((formatter s).render e t).result <;> rfl

lemma Comes.run_eq (h : Options.read arguments = .ok o) (hr : Comes arguments s files r) :
    run o s files = r := by
  have hflag : o.envelope = true ↔ Flag.envelope.argument ∈ arguments := Options.read_flag h rfl
  rw [Command.run_eq]
  cases hr with
  | noEvent hname hevent =>
    rw [event_eq h hname, hevent.readEvent_eq]
    rfl
  | envelope hname hevent henvelope =>
    rw [event_eq h hname, hevent.readEvent_eq]
    exact if_pos (hflag.2 henvelope)
  | template hname hevent henvelope htemplate =>
    rw [event_eq h hname, hevent.readEvent_eq, readTemplate_eq h htemplate]
    exact if_neg (mt hflag.1 henvelope)
  | noFile hname hevent henvelope hfile hfault =>
    obtain ⟨hnone, hsome⟩ := template_eq_none_of_file h hfile
    rw [event_eq h hname, hevent.readEvent_eq, readTemplate, hnone, hsome]
    simp only [Files.text_eq_error_iff.2 hfault]
    exact if_neg (mt hflag.1 henvelope)
  | noTemplate hname hevent henvelope htext hfile =>
    rw [event_eq h hname, hevent.readEvent_eq, readTemplate, template_eq_none h htext,
      templateFile_eq_none h hfile]
    exact if_neg (mt hflag.1 henvelope)

/-- Whatever accepted arguments give and files hold, something decides the run. -/
lemma exists_comes (h : Options.read arguments = .ok o) (s : Settings) (files : Files) :
    ∃ r, Comes arguments s files r := by
  have hname : Gives arguments .event o.event := (Options.read_value h .event o.event).1 rfl
  rcases holdsEvent_or_noEvent files o.event with ⟨e, hevent⟩ | ⟨failure, hevent⟩
  · by_cases henvelope : Flag.envelope.argument ∈ arguments
    · exact ⟨_, .envelope hname hevent henvelope⟩
    by_cases htext : ∃ v, Gives arguments .template v
    · obtain ⟨v, hv⟩ := htext
      exact ⟨_, .template hname hevent henvelope (.inl hv)⟩
    by_cases hfile : ∃ v, Gives arguments .templateFile v
    · obtain ⟨file, hfile⟩ := hfile
      cases hread : files.text file with
      | error fault =>
        exact ⟨_, .noFile hname hevent henvelope hfile (Files.text_eq_error_iff.1 hread)⟩
      | ok t =>
        have hbytes := Files.text_eq_ok_iff.1 hread
        exact ⟨_, .template hname hevent henvelope (.inr ⟨file, hfile, hbytes⟩)⟩
    · exact ⟨_, .noTemplate hname hevent henvelope (not_exists.1 htext) (not_exists.1 hfile)⟩
  · exact ⟨_, .noEvent hname hevent⟩

/-- The formatter of the program renders every template but scripts, which it rejects. -/
lemma format_formatter (s : Settings) (e : Event) (t : Text) :
    (∀ body, Script.Wraps (Text.trim t) body →
      (formatter s).format e t = .error (.script .disabled)) ∧
    ((∀ body, ¬ Script.Wraps (Text.trim t) body) → ∃ x, (formatter s).format e t = .ok x) := by
  constructor
  · intro body hwraps
    rw [Formatter.format, Formatter.render_of_wraps hwraps]
    rfl
  · intro hwraps
    exact ⟨_, Formatter.format_eq_reading_of_sound (Formatter.sound_of_nil rfl)
      (Script.body?_eq_none_iff.2 hwraps)⟩

/-! ## What the program shows -/

/-- Why the program fails: there are no settings, or its run comes to a failure. -/
inductive Fails (arguments : List Text) (vars : Variables) (files : Files) : Failure → Prop where
  | settings {fault : Settings.Fault} (h : Settings.load vars files = .error fault) :
      Fails arguments vars files (.settings fault)
  | run {s : Settings} {failure : Failure} (h : Settings.load vars files = .ok s)
      (hcomes : Comes arguments s files (.error failure)) : Fails arguments vars files failure

lemma program_of_ok (h : Options.read arguments = .ok o) {vars : Variables}
    (hs : Settings.load vars files = .ok s) {x : Text} (hx : run o s files = .ok x)
    (seconds : Binary64) :
    ∃ p, p.output = x ∧ program arguments vars files seconds = .ofProduct o seconds p := by
  unfold run at hx
  cases hp : produce o s files with
  | error failure => rw [hp] at hx; cases hx
  | ok p =>
    rw [hp] at hx
    refine ⟨p, Except.ok.inj hx, ?_⟩
    simp only [program, h, hs, Except.mapError, hp]

lemma Fails.program_eq (h : Options.read arguments = .ok o) {vars : Variables}
    (hf : Fails arguments vars files failure) (seconds : Binary64) :
    program arguments vars files seconds = .ofFailure failure := by
  cases hf with
  | settings hs => simp only [program, h, hs, Except.mapError]
  | @run s _ hs hcomes =>
    have hrun := hcomes.run_eq h
    unfold Command.run at hrun
    cases hp : produce o s files with
    | ok p => rw [hp] at hrun; cases hrun
    | error failure' =>
      rw [hp] at hrun
      cases hrun
      simp only [program, h, hs, Except.mapError, hp]

/-- Accepted arguments make a run come to one thing, which is found in a fixed order whatever the
settings are and the files hold: to what is wrong with the event, to its envelope, to the rendered
template, or to what is wrong with the template. The same template comes to the same wherever it is
from. When the run comes to a text, the program shows it as a line; of a failure it shows the wording
and nothing else, neither text nor metrics. -/
theorem run_comes (h : Options.read arguments = .ok o) (files : Files) :
    (∀ s r, run o s files = r ↔ Comes arguments s files r) ∧
    (∀ (s : Settings) e t,
      (∀ body, Script.Wraps (Text.trim t) body →
        Formatter.format ⟨.below s.urls.baseUrl, .disabled, []⟩ e t = .error (.script .disabled)) ∧
      ((∀ body, ¬ Script.Wraps (Text.trim t) body) →
        ∃ x, Formatter.format ⟨.below s.urls.baseUrl, .disabled, []⟩ e t = .ok x)) ∧
    ∀ vars seconds,
      ((program arguments vars files seconds).code = 0 ↔
        ∃ s x, Settings.load vars files = .ok s ∧ Comes arguments s files (.ok x)) ∧
      (∀ s x, Settings.load vars files = .ok s → Comes arguments s files (.ok x) →
        (program arguments vars files seconds).output = x ++ ['\n']) ∧
      ∀ failure, Fails arguments vars files failure →
        program arguments vars files seconds = ⟨1, [], ["Error: " ++ failure.message]⟩ := by
  have hiff : ∀ s r, run o s files = r ↔ Comes arguments s files r := by
    intro s r
    obtain ⟨r', hr'⟩ := exists_comes h s files
    refine ⟨fun hr => ?_, fun hr => hr.run_eq h⟩
    rwa [← hr, hr'.run_eq h]
  refine ⟨hiff, fun s e t => format_formatter s e t, fun vars seconds => ⟨?_, ?_, ?_⟩⟩
  · constructor
    · intro hcode
      by_contra hnone
      obtain ⟨failure, hf⟩ : ∃ failure, Fails arguments vars files failure := by
        cases hs : Settings.load vars files with
        | error fault => exact ⟨_, .settings hs⟩
        | ok s =>
          cases hr : run o s files with
          | error failure => exact ⟨failure, .run hs ((hiff s _).1 hr)⟩
          | ok x => exact absurd ⟨s, x, hs, (hiff s _).1 hr⟩ hnone
      rw [hf.program_eq h] at hcode
      cases hcode
    · rintro ⟨s, x, hs, hx⟩
      obtain ⟨p, -, hp⟩ := program_of_ok h hs (hx.run_eq h) seconds
      rw [hp]
      rfl
  · intro s x hs hx
    obtain ⟨p, rfl, hp⟩ := program_of_ok h hs (hx.run_eq h) seconds
    rw [hp]
    rfl
  · intro failure hf
    exact hf.program_eq h seconds

/-- The files of an event and of a template. -/
def sampleFiles : Files := fun name =>
  if name = ("event.json" : Text) then some (Text.utf8 Event.sample.payload)
  else if name = ("note.txt" : Text) then some (Text.utf8 "by $APP_NAME, é")
  else none

/-- A template from a file; an envelope that is asked for with a file that is not there; a file of
an event that is not there, beside a script. -/
theorem run_comes_sampleFiles :
    (program ["--template-file", "note.txt", "--event=event.json"] [] sampleFiles
      (.zero false)).output = "by app, é\n" ∧
    run ⟨"event.json", none, some "gone.txt", true, false⟩ .standard sampleFiles
      = .ok Event.sample.envelope ∧
    program ["--event", "gone.json", "--metrics", "--template=Script(1)"] [] sampleFiles
      (.zero false) = ⟨1, [], ["Error: I/O error: No such file or directory"]⟩ := by
  have hsettings : Settings.load [] sampleFiles = .ok .standard := by decide +kernel
  have hnumbers : ∀ n ∈ Event.sample.toJson.numbers, Json.read n.print = .ok (.number n) := by
    decide +kernel
  have hevent : HoldsEvent sampleFiles "event.json" .sample :=
    ⟨_, rfl, Event.read_of_legible ⟨by decide +kernel, fun x hx => hnumbers (.real x) hx⟩⟩
  refine ⟨?_, ?_, ?_⟩
  · have hread : Options.read ["--template-file", "note.txt", "--event=event.json"]
        = .ok ⟨"event.json", none, some "note.txt", false, false⟩ := rfl
    obtain ⟨-, -, hprogram⟩ := run_comes hread sampleFiles
    obtain ⟨-, houtput, -⟩ := hprogram [] (.zero false)
    have htemplate : GivesTemplate ["--template-file", "note.txt", "--event=event.json"] sampleFiles
        "by $APP_NAME, é" := .inr ⟨"note.txt", .inr (by decide), rfl⟩
    have hcomes := Comes.template (s := .standard) (.inl (by decide)) hevent (by decide) htemplate
    have hformat : Formatter.format ⟨.below Settings.standard.urls.baseUrl, .disabled, []⟩ .sample
        "by $APP_NAME, é" = .ok "by app, é" := by decide +kernel
    rw [hformat] at hcomes
    exact houtput _ _ hsettings hcomes
  · have hread : Options.read ["--event=event.json", "--envelope", "--template-file=gone.txt"]
        = .ok ⟨"event.json", none, some "gone.txt", true, false⟩ := rfl
    obtain ⟨hrun, -, -⟩ := run_comes hread sampleFiles
    exact (hrun .standard _).2 (.envelope (.inl (by decide)) hevent (by decide))
  · have hread : Options.read ["--event", "gone.json", "--metrics", "--template=Script(1)"]
        = .ok ⟨"gone.json", some "Script(1)", none, false, true⟩ := rfl
    obtain ⟨-, -, hprogram⟩ := run_comes hread sampleFiles
    obtain ⟨-, -, hfails⟩ := hprogram [] (.zero false)
    have hnone : sampleFiles "gone.json" = none := by decide
    exact hfails _ (.run hsettings (.noEvent (.inr (by decide)) (.file (.notFound hnone))))

end RuleTemplate.Command
