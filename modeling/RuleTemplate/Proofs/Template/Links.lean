import RuleTemplate.Proofs.Template.Synonyms
import RuleTemplate.Proofs.Uuid

/-!
# Addresses tell what they lead to

An address is a base with steps behind it, each behind a slash. No step holds a slash, so when the
address is cut at its slashes the steps are the last pieces, whatever the base is
(`Links.splitAt_address`). From steps of a known number the base and all of them can be told
(`Links.address_inj`). For assets and content items this is `Links.tells_targets`, with what it
means for templates.
-/

namespace RuleTemplate

/-- Two texts that differ at most in the slashes at their ends. -/
def Text.SameButSlashes (s t : Text) : Prop :=
  ∃ stem m n, s = stem ++ List.replicate m '/' ∧ t = stem ++ List.replicate n '/'

namespace Links

variable {l l' : Links} {base base' : Text} {steps steps' : List Text}
  {app schema app' schema' : NamedId} {id id' : Uuid}

/-! ## Bases -/

lemma below_append_slashes (base : Text) (n : Nat) :
    below (base ++ List.replicate n '/') = below base :=
  congrArg Links.mk (Text.rdropWhile_append_replicate base n)

/-- Nothing but slashes at its end can be changed in a base without changing what is below it. -/
lemma below_eq_iff : below base = below base' ↔ base.SameButSlashes base' := by
  constructor
  · intro h
    have hstem : trimSlashes base = trimSlashes base' := congrArg Links.base h
    obtain ⟨m, hm⟩ := Text.exists_append_replicate '/' base
    obtain ⟨n, hn⟩ := Text.exists_append_replicate '/' base'
    exact ⟨trimSlashes base, m, n, hm, hstem ▸ hn⟩
  · rintro ⟨stem, m, n, rfl, rfl⟩
    rw [below_append_slashes, below_append_slashes]

/-! ## Steps -/

/-- The address at the end of some steps from the base. -/
def address (l : Links) (steps : List Text) : Text := l.base ++ steps.flatMap ('/' :: ·)

/-- Steps can be taken one after the other. -/
lemma address_append (l : Links) (steps steps' : List Text) :
    l.address (steps ++ steps') = address ⟨l.address steps⟩ steps' := by
  simp only [address, List.flatMap_append, List.append_assoc]

/-- The steps are the last pieces between the slashes of an address. -/
lemma splitAt_address (l : Links) (h : ∀ step ∈ steps, '/' ∉ step) :
    Text.splitAt '/' (l.address steps) = Text.splitAt '/' l.base ++ steps :=
  Text.splitAt_append_flatMap l.base h

/-- Of two addresses with as many steps, each tells its base and its steps. -/
lemma address_inj (h : ∀ step ∈ steps, '/' ∉ step) (h' : ∀ step ∈ steps', '/' ∉ step)
    (hlength : steps.length = steps'.length) :
    l.address steps = l'.address steps' ↔ l = l' ∧ steps = steps' := by
  constructor
  · intro haddress
    have hpieces := congrArg (Text.splitAt '/') haddress
    rw [splitAt_address l h, splitAt_address l' h'] at hpieces
    obtain ⟨hbase, hsteps⟩ := List.append_inj' hpieces hlength
    exact ⟨congrArg Links.mk (Text.splitAt_injective '/' hbase), hsteps⟩
  · rintro ⟨rfl, rfl⟩
    rfl

/-- An address tells its last step, whatever steps lead there. -/
lemma eq_of_address_concat {step step' : Text} (h : '/' ∉ step) (h' : '/' ∉ step')
    (haddress : l.address (steps ++ [step]) = l'.address (steps' ++ [step'])) : step = step' := by
  rw [address_append, address_append, address_inj (List.forall_mem_singleton.2 h)
    (List.forall_mem_singleton.2 h') rfl] at haddress
  exact (List.cons.inj haddress.2).1

/-! ## Assets and content items -/

lemma slash_notMem_text (id : Uuid) : '/' ∉ id.text := Uuid.notMem_text rfl (by decide) id

lemma asset_eq (l : Links) (id : Uuid) : l.asset id = l.address ["api", "assets", id.text] := by
  simp [asset, address]

lemma content_eq (l : Links) (app schema : NamedId) (id : Uuid) : l.content app schema id
    = l.address ["app", app.name, "content", schema.name, id.text, "history"] := by
  simp [content, address]

/-- The address of an asset tells its base and the asset. -/
lemma asset_eq_asset_iff : l.asset id = l'.asset id' ↔ l = l' ∧ id = id' := by
  have hsteps : ∀ id : Uuid, ∀ step ∈ [("api" : Text), "assets", id.text], '/' ∉ step := by
    intro id
    simp [slash_notMem_text]
  rw [asset_eq, asset_eq, address_inj (hsteps id) (hsteps id') rfl]
  simp [Uuid.text_injective.eq_iff]

/-- The address of a content item tells its base, the names of its app and its schema and the item,
also when a name is empty or reads like one of the fixed steps. -/
lemma content_eq_content_iff (happ : '/' ∉ app.name) (hschema : '/' ∉ schema.name)
    (happ' : '/' ∉ app'.name) (hschema' : '/' ∉ schema'.name) :
    l.content app schema id = l'.content app' schema' id'
      ↔ l = l' ∧ app.name = app'.name ∧ schema.name = schema'.name ∧ id = id' := by
  have hsteps : ∀ (id : Uuid) (app schema : Text), '/' ∉ app → '/' ∉ schema →
      ∀ step ∈ [("app" : Text), app, "content", schema, id.text, "history"], '/' ∉ step := by
    intro id app schema happ hschema
    simp [slash_notMem_text, happ, hschema]
  rw [content_eq, content_eq,
    address_inj (hsteps id _ _ happ hschema) (hsteps id' _ _ happ' hschema') rfl]
  simp [Uuid.text_injective.eq_iff]

/-- A name with a slash could be taken for several steps. -/
example : content ⟨[]⟩ ⟨.zero, "a/content/b"⟩ ⟨.zero, "c"⟩ .zero
    = content ⟨[]⟩ ⟨.zero, "a"⟩ ⟨.zero, "b/content/c"⟩ .zero := by decide

/-- The address of a content item ends in a step that is no identifier. -/
lemma asset_ne_content (l l' : Links) (app schema : NamedId) (id id' : Uuid) :
    l.asset id ≠ l'.content app schema id' := by
  intro h
  have hlast : l.address ([("api" : Text), "assets"] ++ [id.text]) = l'.address
      ([("app" : Text), app.name, "content", schema.name, id'.text] ++ [("history" : Text)]) := by
    rw [asset_eq, content_eq] at h
    exact h
  have hhistory : '/' ∉ ("history" : Text) := by decide
  have hstep : id.text = "history" := eq_of_address_concat (slash_notMem_text id) hhistory hlast
  have hsize := id.byteSize_text
  rw [hstep] at hsize
  exact absurd hsize (by decide)

end Links

/-! ## Templates -/

namespace Formatter

/-- The formatter with its addresses below a base. -/
def below (f : Formatter) (base : Text) : Formatter := { f with links := .below base }

variable {f : Formatter} {e : Event}

lemma format_contentUrl {c : ContentChange} (h : e.content? = some c) :
    f.format e "$CONTENT_URL" = .ok (f.links.content e.base.appId c.schemaId c.id) := by
  have hvalue : Builtin.contentUrl.value? f.links e
      = some (f.links.content e.base.appId c.schemaId c.id) := by
    rw [Builtin.value?, h]
    rfl
  exact format_name_of_value? hvalue

lemma format_assetContentUrl {a : AssetChange} (h : e.asset? = some a) :
    f.format e "$ASSET_CONTENT_URL" = .ok (f.links.asset a.id) := by
  have hvalue : Builtin.assetContentUrl.value? f.links e = some (f.links.asset a.id) := by
    rw [Builtin.value?, h]
    rfl
  exact format_name_of_value? hvalue

end Formatter

namespace Links

/-- Addresses tell what they lead to, and below which base, up to the slashes at its end. Those of
assets tell the asset. Those of content items tell the item and the names of its app and its schema,
if the names hold no slashes; there is nothing in them of the identifiers of the app and the schema.
No asset has the address of a content item. So slashes at the end of a base change no address, and
templates are rendered with the same ones. -/
theorem tells_targets (base base' : Text) :
    (below base = below base' ↔ base.SameButSlashes base') ∧
    (∀ id id', (below base).asset id = (below base').asset id'
      ↔ base.SameButSlashes base' ∧ id = id') ∧
    (∀ (app schema app' schema' : NamedId) (id id' : Uuid), '/' ∉ app.name → '/' ∉ schema.name →
      '/' ∉ app'.name → '/' ∉ schema'.name →
      ((below base).content app schema id = (below base').content app' schema' id'
        ↔ base.SameButSlashes base' ∧ app.name = app'.name ∧ schema.name = schema'.name
          ∧ id = id')) ∧
    (∀ id app schema id', (below base).asset id ≠ (below base').content app schema id') ∧
    ∀ n, below (base ++ List.replicate n '/') = below base ∧
      ∀ (f : Formatter) (e : Event),
        (∀ t, (f.below (base ++ List.replicate n '/')).format e t = (f.below base).format e t) ∧
        (∀ c, e.content? = some c →
          (f.below (base ++ List.replicate n '/')).format e "$CONTENT_URL"
            = .ok ((below base).content e.base.appId c.schemaId c.id)) ∧
        (∀ a, e.asset? = some a →
          (f.below (base ++ List.replicate n '/')).format e "$ASSET_CONTENT_URL"
            = .ok ((below base).asset a.id)) := by
  refine ⟨below_eq_iff, fun id id' => ?_, fun app schema app' schema' id id' ha hs ha' hs' => ?_,
    fun id app schema id' => asset_ne_content _ _ app schema id id', fun n => ?_⟩
  · rw [asset_eq_asset_iff, below_eq_iff]
  · rw [content_eq_content_iff ha hs ha' hs', below_eq_iff]
  · have hbelow := below_append_slashes base n
    refine ⟨hbelow, fun f e => ?_⟩
    have hf : f.below (base ++ List.replicate n '/') = f.below base := by
      rw [Formatter.below, Addresses.below, hbelow]
      rfl
    rw [hf]
    exact ⟨fun t => rfl, fun c hc => Formatter.format_contentUrl hc,
      fun a ha => Formatter.format_assetContentUrl ha⟩

/-- Empty names and names that read like a fixed step, below bases that are made of slashes. -/
theorem tells_targets_slashes :
    ('/' ∉ ("" : Text) ∧ '/' ∉ ("content" : Text)) ∧
    (below "//").content ⟨.zero, ""⟩ ⟨.zero, "content"⟩ .zero
      ≠ (below "").content ⟨.zero, "content"⟩ ⟨.zero, ""⟩ .zero ∧
    (Formatter.plain.below "//").format .sampleContent "$CONTENT_URL"
      = .ok "/app/app/content/article/00000000-0000-0000-0000-000000000000/history" := by
  have hempty : '/' ∉ ("" : Text) := by decide
  have hcontent : '/' ∉ ("content" : Text) := by decide
  obtain ⟨-, -, htells, -, -⟩ := tells_targets "//" ""
  obtain ⟨-, -, -, -, hslashes⟩ := tells_targets "" ""
  obtain ⟨-, hrendered, -⟩ := (hslashes 2).2 .plain .sampleContent
  refine ⟨⟨hempty, hcontent⟩, fun h => ?_, hrendered _ rfl⟩
  obtain ⟨-, hname, -⟩ := (htells _ _ _ _ _ _ hempty hcontent hcontent hempty).1 h
  exact absurd hname (by decide)

end Links

end RuleTemplate
