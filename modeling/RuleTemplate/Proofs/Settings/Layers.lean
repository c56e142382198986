import RuleTemplate.Proofs.Files
import RuleTemplate.Proofs.Results
import RuleTemplate.Proofs.Settings.VariableFile
import RuleTemplate.Proofs.Settings.Variables
import RuleTemplate.Proofs.Text.Pieces
import RuleTemplate.Settings.Load

/-!
# Layers of settings

Each source of settings is a layer: it gives a value for some settings and says nothing of the
others. The value of a setting is the one in the first layer that gives one, from the variables of
the environment down to the common file, or else the standard one (`deciding`). Nothing else has a
say in it (`load_layered`): neither what layers below give for the setting nor what any layer gives
for other settings.
-/

namespace RuleTemplate.Settings

open VariableFile

variable {read : VariableReader} {vars vars' : Variables} {files files' : Files} {name mode : Text}
  {layer special common special' common' : Layer}

/-! ## Files -/

/-- What the file for a name gives: nothing when it is not there or holds no text. -/
inductive FileGives (files : Files) (name : Text) : Layer → Prop where
  | nothing (h : ∀ t, files (name ++ ending) ≠ some (Text.utf8 t)) :
      FileGives files name fun _ => none
  | entries {t : Text} {s : Source} {layer : Layer} (h : files (name ++ ending) = some t.utf8)
      (hs : source? t = some s) (hgives : Gives s layer) : FileGives files name layer

lemma FileGives.exists_source (h : FileGives files name layer) (hbare : files name = none)
    (hpath : withEnding? name = some (name ++ ending)) :
    ∃ s, ofFile files name = .ok s ∧ Gives s layer := by
  have hfile : filePath? files name = some (name ++ ending) := by
    rw [filePath?, hbare]
    exact hpath
  unfold ofFile
  rw [hfile, Option.map_some]
  cases h with
  | nothing h =>
    refine ⟨[], ?_, [], .nil, List.nodup_nil, fun k => rfl⟩
    cases htext : files.text (name ++ ending) with
    | error fault => rfl
    | ok t => exact absurd (Files.text_eq_ok_iff.1 htext) (h t)
  | entries h hs hgives =>
    refine ⟨_, ?_, hgives⟩
    rw [Files.text_eq_ok_iff.2 h]
    simp only [hs]

/-- The file for a mode stands among the files of settings. -/
lemma withEnding?_modeFile (hne : mode ≠ []) (hslash : '/' ∉ mode) (hpoint : '.' ∉ mode) :
    withEnding? (modeFile mode) = some (modeFile mode ++ ending) := by
  have htext : modeFile mode = ("config" : Text) ++ '/' :: mode := rfl
  have hsplit : Text.splitAt '/' (modeFile mode) = [("config" : Text), mode] := by
    rw [htext, Text.splitAt_append_cons (by decide), Text.splitAt_of_not_mem hslash]
  have hstep : mode ≠ ['.'] := by
    rintro rfl
    exact hpoint (by decide)
  have hup : mode ≠ ['.', '.'] := by
    rintro rfl
    exact hpoint (by decide)
  have hreverse : [("config" : Text), mode].reverse = [mode, ("config" : Text)] := rfl
  have hkept : ([mode, ("config" : Text)].dropWhile fun step => step = [] ∨ step = ['.'])
      = [mode, ("config" : Text)] := List.dropWhile_cons_of_neg (by simp [hne, hstep])
  unfold withEnding?
  rw [hsplit, hreverse, hkept]
  split
  next heq => cases heq
  next heq => exact absurd (List.cons.inj heq).1 hup
  next =>
    rw [List.reverse_cons, List.reverse_singleton, List.singleton_append, Text.joinWith_cons, htext]
    simp

/-! ## All layers -/

/-- What the entries of a file of variables give. -/
def Layer.ofEntries (vars : Variables) (entries : List Entry) : Layer := fun k =>
  (given vars entries k.variableName).map valueOf

/-- The variable that names the mode. -/
def modeVariable : Text := "RUN_MODE"

/-- The mode that variables and the file of variables name. -/
def modeOf (read : VariableReader) (vars : Variables) (files : Files) : Text :=
  ((vars.lookup modeVariable).or (given vars (fileEntries read files) modeVariable)).getD
    "development"

lemma runMode_allVariables (read : VariableReader) (vars : Variables) (files : Files) :
    runMode (allVariables read vars files) = modeOf read vars files := by
  rw [runMode, allVariables, lookup_withEntries]
  rfl

/-- Variables and files in which every source of settings gives a layer: those of the file for the
mode and of the common file are given. -/
structure Layered (read : VariableReader) (vars : Variables) (files : Files)
    (special common : Layer) : Prop where
  distinct : (vars.map (·.1)).Nodup
  environment : SettingsOnly vars
  fileEntries : SettingsOnly (fileEntries read files)
  mode_ne_nil : modeOf read vars files ≠ []
  slash_notMem : '/' ∉ modeOf read vars files
  point_notMem : '.' ∉ modeOf read vars files
  special_bare : files (modeFile (modeOf read vars files)) = none
  common_bare : files commonFile = none
  special : FileGives files (modeFile (modeOf read vars files)) special
  common : FileGives files commonFile common

/-- The layers, the highest first. -/
def layers (read : VariableReader) (vars : Variables) (files : Files) (special common : Layer) :
    List Layer :=
  [.ofVariables vars, .ofEntries vars (fileEntries read files), special, common]

/-- The value of a setting in the first layer that gives one, or else the standard one. -/
def deciding (layers : List Layer) : Key → Json := fun k =>
  (layers.findSome? fun layer => layer k).getD k.standard

/-- What the layers give is laid over the standard values from the lowest to the highest. -/
lemma deciding_eq (read : VariableReader) (vars : Variables) (files : Files)
    (special common : Layer) (k : Key) :
    deciding (layers read vars files special common) k
      = (Layer.ofVariables (allVariables read vars files) k).getD
        ((special k).getD ((common k).getD k.standard)) := by
  rw [Layer.ofVariables, allVariables, lookup_withEntries]
  simp only [deciding, layers, Layer.ofVariables, Layer.ofEntries, List.findSome?_cons,
    List.findSome?_nil]
  cases vars.lookup k.variableName <;>
    cases given vars (fileEntries read files) k.variableName <;>
    cases special k <;> cases common k <;> rfl

lemma holds_defaults : Holds (overlay (.object []) defaults) Key.standard := by
  have htree : overlay (.object []) defaults = .object
      [(("logging" : Text), .object [(Key.format.name, Key.format.standard),
        (Key.level.name, Key.level.standard)]),
      (("urls" : Text), .object [(Key.baseUrl.name, Key.baseUrl.standard)])] := by decide +kernel
  rw [htree]
  refine ⟨_, rfl, fun g => ?_⟩
  cases g with
  | urls =>
    refine ⟨_, rfl, _, rfl, fun k hk => ?_⟩
    cases k <;> first | exact ⟨rfl, trivial⟩ | cases hk
  | logging =>
    refine ⟨_, rfl, _, rfl, fun k hk => ?_⟩
    cases k <;> first | exact ⟨rfl, trivial⟩ | cases hk

/-- The tree that is loaded holds the deciding values. -/
lemma Layered.exists_tree (h : Layered read vars files special common) :
    ∃ tree, Holds tree (deciding (layers read vars files special common)) ∧
      loadWith read vars files = (ofTree? tree).elim (.error .value) .ok := by
  obtain ⟨sCommon, hcommonFile, hcommon⟩ := h.common.exists_source h.common_bare (by decide +kernel)
  obtain ⟨sSpecial, hspecialFile, hspecial⟩ := h.special.exists_source h.special_bare
    (withEnding?_modeFile h.mode_ne_nil h.slash_notMem h.point_notMem)
  have hsettings : SettingsOnly (allVariables read vars files) := by
    intro v hv
    rcases mem_of_mem_withEntries hv with hmem | ⟨entry, hentry, hname⟩
    · exact h.environment v hmem
    · rw [← hname]
      exact h.fileEntries entry hentry
  have hvars := gives_ofVariables (nodup_withEntries h.distinct _) hsettings
  have hsources : sources read vars files
      = .ok [defaults, sCommon, sSpecial, ofVariables (allVariables read vars files)] := by
    rw [sources, hcommonFile, runMode_allVariables, hspecialFile]
    rfl
  have hholds := ((holds_defaults.overlay_layer hcommon).overlay_layer hspecial).overlay_layer hvars
  rw [← allVariables, ← funext (deciding_eq read vars files special common)] at hholds
  refine ⟨_, hholds, ?_⟩
  rw [loadWith, hsources, Results.ok_bind]
  simp only [List.foldl_cons, List.foldl_nil]
  cases ofTree? _ <;> rfl

lemma Layered.load_eq_ok_iff (h : Layered read vars files special common) {s : Settings} :
    loadWith read vars files = .ok s
      ↔ Reads (deciding (layers read vars files special common)) s := by
  obtain ⟨tree, hholds, hload⟩ := h.exists_tree
  rw [hload, ← hholds.ofTree?_eq_some_iff]
  cases ofTree? tree <;> simp

/-- Loading fails when what decides the format is none. -/
lemma Layered.load_eq_error (h : Layered read vars files special common) {fault : Fault}
    (hfault : loadWith read vars files = .error fault) :
    fault = .value ∧ format? (deciding (layers read vars files special common) .format) = none := by
  obtain ⟨tree, hholds, hload⟩ := h.exists_tree
  rw [hload] at hfault
  cases hread : ofTree? tree with
  | some s =>
    rw [hread] at hfault
    cases hfault
  | none =>
    rw [hread] at hfault
    cases hfault
    refine ⟨rfl, ?_⟩
    by_contra hne
    obtain ⟨f, hf⟩ := Option.ne_none_iff_exists'.1 hne
    obtain ⟨b, hb⟩ := exists_text?_of_isScalar (hholds.isScalar .baseUrl)
    obtain ⟨l, hl⟩ := exists_text?_of_isScalar (hholds.isScalar .level)
    have hreads : Reads _ (⟨⟨b⟩, ⟨l, f⟩⟩ : Settings) := ⟨hb, hl, hf⟩
    rw [hholds.ofTree?_eq_some_iff.2 hreads] at hread
    cases hread

/-! ## One setting among others -/

/-- What the environment and the file of variables say of one setting has no say in the mode, unless
the file refers to it there. -/
lemma modeOf_eq_of_not_refers {j : Key}
    (hsame : SameBut j.variableName vars (fileEntries read files) vars' (fileEntries read files'))
    (h : ¬ Refers (fileEntries read files) modeVariable j.variableName) :
    modeOf read vars files = modeOf read vars' files' := by
  have hne : modeVariable ≠ j.variableName := by cases j <;> decide
  rw [modeOf, hsame.lookup_eq _ hne, given_eq_of_not_refers hsame hne h, modeOf]

/-- Nor has it a say in what decides another setting. -/
lemma deciding_eq_of_not_refers {j k : Key} (hk : k ≠ j)
    (hsame : SameBut j.variableName vars (fileEntries read files) vars' (fileEntries read files'))
    (hspecial : special k = special' k) (hcommon : common k = common' k)
    (h : ¬ Refers (fileEntries read files) k.variableName j.variableName) :
    deciding (layers read vars files special common) k
      = deciding (layers read vars' files' special' common') k := by
  have hne : k.variableName ≠ j.variableName := mt Key.variableName_inj hk
  have henvironment : Layer.ofVariables vars k = Layer.ofVariables vars' k :=
    congrArg (Option.map valueOf) (hsame.lookup_eq _ hne)
  have hentries : Layer.ofEntries vars (fileEntries read files) k
      = Layer.ofEntries vars' (fileEntries read files') k :=
    congrArg (Option.map valueOf) (given_eq_of_not_refers hsame hne h)
  simp only [deciding, layers, List.findSome?_cons, henvironment, hentries, hspecial, hcommon]

/-- Each setting is decided by the first layer that gives a value for it, from the variables of the
environment down to the common file, and by the standard value when none does. Loading succeeds when
these values are acceptable, which only that of the format may not be. What it reads of a setting
depends on the value that decides it and on nothing else in any layer. So it does not change when
another setting is given otherwise in a layer, unless the file of variables gives it by a reference
to the variable of the other one. -/
theorem load_layered (h : Layered read vars files special common) :
    (∀ s, loadWith read vars files = .ok s
      ↔ Reads (deciding (layers read vars files special common)) s) ∧
    (∀ fault, loadWith read vars files = .error fault →
      fault = .value ∧
        format? (deciding (layers read vars files special common) .format) = none) ∧
    ∀ vars' files' special' common', Layered read vars' files' special' common' →
      (∀ s s', loadWith read vars files = .ok s → loadWith read vars' files' = .ok s' →
        ∀ k, deciding (layers read vars files special common) k
            = deciding (layers read vars' files' special' common') k →
          k.read s = k.read s') ∧
      ∀ j : Key,
        SameBut j.variableName vars (fileEntries read files) vars' (fileEntries read files') →
        (¬ Refers (fileEntries read files) modeVariable j.variableName →
          modeOf read vars files = modeOf read vars' files') ∧
        ∀ s s', loadWith read vars files = .ok s → loadWith read vars' files' = .ok s' →
          ∀ k ≠ j, special k = special' k → common k = common' k →
            ¬ Refers (fileEntries read files) k.variableName j.variableName →
            k.read s = k.read s' := by
  refine ⟨fun s => h.load_eq_ok_iff, fun fault hfault => h.load_eq_error hfault, ?_⟩
  intro vars' files' special' common' h'
  have hread : ∀ s s', loadWith read vars files = .ok s → loadWith read vars' files' = .ok s' →
      ∀ k, deciding (layers read vars files special common) k
          = deciding (layers read vars' files' special' common') k → k.read s = k.read s' :=
    fun s s' hs hs' k hk => (h.load_eq_ok_iff.1 hs).read_eq (h'.load_eq_ok_iff.1 hs') hk
  refine ⟨hread, fun j hsame => ⟨modeOf_eq_of_not_refers hsame, ?_⟩⟩
  intro s s' hs hs' k hk hspecial hcommon hrefers
  exact hread s s' hs hs' k (deciding_eq_of_not_refers hk hsame hspecial hcommon hrefers)

/-- Files of settings, of which the one for the mode says less than the common one. -/
def sampleFiles : Files := fun name =>
  if name = (".env" : Text) then
    some (Text.utf8 "export RUN_MODE='test-1' # mode\nFORMATTER_LOGGING__LEVEL=trace\nFORMATTER_URLS__BASE_URL=\"1.$\x7bDIGITS\x7d\"\n")
  else if name = ("config/test-1.json" : Text) then
    some (Text.utf8 "\x7b\"logging\": \x7b\"format\": \"JSON\"\x7d, \"urls.base_url\": true\x7d")
  else if name = ("config/default.json" : Text) then
    some (Text.utf8 "\x7b\"logging\": \x7b\"format\": \"xml\", \"level\": 5\x7d\x7d")
  else none

/-- Variables of which one is for a setting. -/
def sampleVariables : Variables :=
  [(("DIGITS" : Text), ("50" : Text)), (("FORMATTER_LOGGING__LEVEL" : Text), ("debug" : Text))]

lemma fileEntries_sampleFiles : fileEntries VariableFile.read sampleFiles
    = [(modeVariable, ("test-1" : Text).map .char),
      (Key.variableName .level, ("trace" : Text).map .char),
      (Key.variableName .baseUrl, [.char '1', .char '.', .reference "DIGITS"])] := by
  decide +kernel

/-- What the file for the mode gives. -/
def sampleSpecial : Layer := fun k =>
  [(Key.format, Json.string "JSON"), (Key.baseUrl, .bool true)].lookup k

/-- What the common file gives. -/
def sampleCommon : Layer := fun k =>
  [(Key.format, Json.string "xml"), (Key.level, .number (.integer 5 (by decide)))].lookup k

lemma layered_sampleFiles (vars : Variables) (hnodup : (vars.map (·.1)).Nodup)
    (hvars : SettingsOnly vars) (hmode : vars.lookup modeVariable = none) :
    Layered VariableFile.read vars sampleFiles sampleSpecial sampleCommon := by
  have htest : modeOf VariableFile.read vars sampleFiles = "test-1" := by
    rw [modeOf, hmode, fileEntries_sampleFiles]
    rfl
  have hentries : SettingsOnly (fileEntries VariableFile.read sampleFiles) := by
    rw [fileEntries_sampleFiles]
    exact List.forall_mem_cons.2 ⟨fun h => absurd h (by decide),
      List.forall_mem_cons.2 ⟨fun _ => ⟨.level, rfl⟩,
        List.forall_mem_singleton.2 fun _ => ⟨.baseUrl, rfl⟩⟩⟩
  have hjson : ∀ a ∈ [(Key.format, Json.string "JSON")],
      a.1.group = .logging ∧ IsScalar a.2 := by decide
  have hxml : ∀ a ∈
      [(Key.format, Json.string "xml"), (Key.level, .number (.integer 5 (by decide)))],
      a.1.group = .logging ∧ IsScalar a.2 := by decide
  have hbase : Assigns [(Key.baseUrl.path, .bool true)] _ := .key .baseUrl trivial .nil
  have hspecial : FileGives sampleFiles (modeFile "test-1") sampleSpecial :=
    .entries rfl (by decide +kernel) ⟨_, .group .logging hjson hbase, by decide, fun k => rfl⟩
  have hcommon : FileGives sampleFiles commonFile sampleCommon :=
    .entries rfl (by decide +kernel) ⟨_, .group .logging hxml .nil, by decide, fun k => rfl⟩
  exact {
    distinct := hnodup
    environment := hvars
    fileEntries := hentries
    mode_ne_nil := by rw [htest]; decide
    slash_notMem := by rw [htest]; decide
    point_notMem := by rw [htest]; decide
    special_bare := by rw [htest]; decide
    common_bare := by decide
    special := htest ▸ hspecial
    common := hcommon }

/-- Each setting is from another layer; the common format, which is none, does no harm. Without the
level in the environment, the base is the same. -/
theorem load_layered_sampleFiles :
    load sampleVariables sampleFiles = .ok ⟨⟨"1.5"⟩, ⟨"debug", .json⟩⟩ ∧
    ∀ s, load [(("DIGITS" : Text), ("50" : Text))] sampleFiles = .ok s →
      Key.read .baseUrl s = "1.5" := by
  have hvars : SettingsOnly sampleVariables :=
    List.forall_mem_cons.2 ⟨fun h => absurd h (by decide),
      List.forall_mem_singleton.2 fun _ => ⟨.level, rfl⟩⟩
  have hlayered := layered_sampleFiles sampleVariables (by decide) hvars (by decide)
  have hwithout := layered_sampleFiles [(("DIGITS" : Text), ("50" : Text))] (List.nodup_singleton _)
    (List.forall_mem_singleton.2 fun h => absurd h (by decide)) (by decide)
  obtain ⟨hload, -, hother⟩ := load_layered hlayered
  have hall : load sampleVariables sampleFiles = .ok ⟨⟨"1.5"⟩, ⟨"debug", .json⟩⟩ := by
    refine (hload _).2 ⟨?_, ?_, ?_⟩ <;> rw [layers, fileEntries_sampleFiles] <;> decide +kernel
  have hsame : SameBut (Key.variableName .level) sampleVariables
      (fileEntries VariableFile.read sampleFiles) [(("DIGITS" : Text), ("50" : Text))]
      (fileEntries VariableFile.read sampleFiles) := by
    refine ⟨fun n hn => ?_, rfl⟩
    have hlevel : (n == ("FORMATTER_LOGGING__LEVEL" : Text)) = false := beq_false_of_ne hn
    rw [sampleVariables, List.lookup_cons, List.lookup_cons, hlevel, List.lookup_cons]
  have hrefers : ¬ Refers (fileEntries VariableFile.read sampleFiles) (Key.variableName .baseUrl)
      (Key.variableName .level) := by
    intro h
    obtain ⟨entry, hentry, hreference⟩ := h.exists_mem
    rw [fileEntries_sampleFiles] at hentry
    revert entry
    decide
  refine ⟨hall, fun s hs => ?_⟩
  obtain ⟨-, hchange⟩ := (hother _ _ _ _ hwithout).2 .level hsame
  exact (hchange _ s hall hs .baseUrl (by decide) rfl rfl hrefers).symm

/-- Files of settings of which there is only that of variables. The level there is the base. -/
def referringFiles : Files := fun name =>
  if name = (".env" : Text) then
    some (Text.utf8 "FORMATTER_URLS__BASE_URL=http://file\nFORMATTER_LOGGING__LEVEL=$\x7bFORMATTER_URLS__BASE_URL\x7d\n")
  else none

/-- Variables of which one is for the base. -/
def baseVariables : Variables := [(Key.variableName .baseUrl, ("http://env" : Text))]

lemma fileEntries_referringFiles : fileEntries VariableFile.read referringFiles
    = [(Key.variableName .baseUrl, ("http://file" : Text).map .char),
      (Key.variableName .level, [.reference (Key.variableName .baseUrl)])] := by
  decide +kernel

lemma layered_referringFiles (vars : Variables) (hnodup : (vars.map (·.1)).Nodup)
    (hvars : SettingsOnly vars) (hmode : vars.lookup modeVariable = none) :
    Layered VariableFile.read vars referringFiles (fun _ => none) fun _ => none := by
  have hdevelopment : modeOf VariableFile.read vars referringFiles = "development" := by
    rw [modeOf, hmode, fileEntries_referringFiles]
    rfl
  have hentries : SettingsOnly (fileEntries VariableFile.read referringFiles) := by
    rw [fileEntries_referringFiles]
    exact List.forall_mem_cons.2 ⟨fun _ => ⟨.baseUrl, rfl⟩,
      List.forall_mem_singleton.2 fun _ => ⟨.level, rfl⟩⟩
  have hnothing : ∀ name : Text, name ≠ ".env" → referringFiles name = none := fun _ h => if_neg h
  have hspecial : FileGives referringFiles (modeFile "development") fun _ => none :=
    .nothing fun t => by rw [hnothing _ (by decide)]; nofun
  have hcommon : FileGives referringFiles commonFile fun _ => none :=
    .nothing fun t => by rw [hnothing _ (by decide)]; nofun
  exact {
    distinct := hnodup
    environment := hvars
    fileEntries := hentries
    mode_ne_nil := by rw [hdevelopment]; decide
    slash_notMem := by rw [hdevelopment]; decide
    point_notMem := by rw [hdevelopment]; decide
    special_bare := by rw [hdevelopment]; exact hnothing _ (by decide)
    common_bare := hnothing _ (by decide)
    special := hdevelopment ▸ hspecial
    common := hcommon }

/-- A reference is to what the environment sets before what the file sets. So when nothing changes
but the base in the environment, the level that is read may change. -/
theorem load_referringFiles :
    Layered VariableFile.read [] referringFiles (fun _ => none) (fun _ => none) ∧
    Layered VariableFile.read baseVariables referringFiles (fun _ => none) (fun _ => none) ∧
    SameBut (Key.variableName .baseUrl) [] (fileEntries VariableFile.read referringFiles)
      baseVariables (fileEntries VariableFile.read referringFiles) ∧
    load [] referringFiles = .ok ⟨⟨"http://file"⟩, ⟨"http://file", .pretty⟩⟩ ∧
    load baseVariables referringFiles = .ok ⟨⟨"http://env"⟩, ⟨"http://env", .pretty⟩⟩ := by
  have hbefore := layered_referringFiles [] List.nodup_nil (by nofun) rfl
  have hafter := layered_referringFiles baseVariables (List.nodup_singleton _)
    (List.forall_mem_singleton.2 fun _ => ⟨.baseUrl, rfl⟩) (by decide)
  refine ⟨hbefore, hafter, ⟨fun n hn => ?_, rfl⟩, ?_, ?_⟩
  · rw [baseVariables, List.lookup_cons, beq_false_of_ne hn]
  · refine hbefore.load_eq_ok_iff.2 ⟨?_, ?_, ?_⟩ <;> rw [layers, fileEntries_referringFiles] <;>
      decide +kernel
  · refine hafter.load_eq_ok_iff.2 ⟨?_, ?_, ?_⟩ <;> rw [layers, fileEntries_referringFiles] <;>
      decide +kernel

end RuleTemplate.Settings
