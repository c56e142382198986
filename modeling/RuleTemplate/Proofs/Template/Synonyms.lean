import RuleTemplate.Proofs.Node.Users
import RuleTemplate.Proofs.Template.Braces

/-!
# Built-in names and paths

Most of what the built-in placeholders stand for can also be reached by a path in the event
(`Builtin.path?`). The two ways are independent: a built-in placeholder asks the event for a user or
a schema, whatever its kind, while a path goes by the names of the parts and, at a user, asks for
claims before fields. `Formatter.format_builtin` says that both render the same text; only a claim
of the type `email` can part them.
-/

namespace RuleTemplate

/-! ## What a name leads to -/

namespace Node

/-- The text at the end of a path. -/
def textAt? (n : Node) (path : List Text) : Option Text := (n.resolve path).1.bind text?

variable {n next : Node} {segment : Text}

lemma textAt?_of_child? (h : n.child? segment = some next) (path : List Text) :
    n.textAt? (segment :: path) = next.textAt? path := by
  unfold textAt?
  rw [resolve, h]

lemma textAt?_eq_none (h : n.child? segment = none) (path : List Text) :
    n.textAt? (segment :: path) = none := by
  unfold textAt?
  rw [resolve, h]
  rfl

/-- An unknown user leads nowhere. -/
lemma textAt?_ofUser? (u : Option User) (path : List Text) :
    (ofUser? u).textAt? path = u.bind fun u => (user u).textAt? path := by
  cases u with
  | none => cases path <;> rfl
  | some u => rfl

end Node

namespace User

variable {u : User}

/-- At a user, `name` stands for the name to be shown, which is no field. -/
lemma textAt?_name (u : User) : (Node.user u).textAt? ["name"] = u.displayName? := by
  have hshown : u.displayName? = u.claim? (Claim.kindFor "name") :=
    congrArg u.claim? (if_pos (by decide)).symm
  rw [hshown]
  cases hname : u.claim? (Claim.kindFor "name") with
  | none =>
    have hchild : (Node.user u).child? "name" = none := child?_of_claim?_eq_none hname
    exact Node.textAt?_eq_none hchild []
  | some name =>
    have hchild : (Node.user u).child? "name" = some (.text name) := child?_of_claim?_eq_some hname
    exact Node.textAt?_of_child? hchild []

/-- At a user, `email` is the field of that name, unless a claim has that type. -/
lemma textAt?_email (h : ∀ c ∈ u.claims, Text.sameLetters c.kind "email" = false) :
    (Node.user u).textAt? ["email"] = some u.email := by
  have hchild : (Node.user u).child? "email" = some (.text u.email) :=
    child?_of_claim?_eq_none (claim?_eq_none_iff.2 h)
  exact Node.textAt?_of_child? hchild []

end User

namespace Event

variable (e : Event) (path : List Text)

lemma textAt?_appId : (Node.record (.event e)).textAt? ("appId" :: path)
    = (Node.ofNamedId e.base.appId).textAt? path := by
  have hname : ("appId" : Text) ∈ Base.shape.names := by decide
  have hchild : (Node.record (.event e)).child? "appId" = some (.ofNamedId e.base.appId) :=
    field?_base hname
  exact Node.textAt?_of_child? hchild path

lemma textAt?_timestamp :
    (Node.record (.event e)).textAt? ["timestamp"] = some e.base.timestamp.textToSecond := by
  have hname : ("timestamp" : Text) ∈ Base.shape.names := by decide
  have hchild : (Node.record (.event e)).child? "timestamp"
      = some (.ofTimestamp e.base.timestamp) := field?_base hname
  exact Node.textAt?_of_child? hchild []

/-- Events of all kinds that have a user have a part of that name. -/
lemma textAt?_user : (Node.record (.event e)).textAt? ("user" :: path)
    = e.user?.bind fun u => (Node.user u).textAt? path := by
  have hnode : (Node.record (.event e)).child? "user" = some (.ofUser? e.user?) ∨
      (Node.record (.event e)).child? "user" = none ∧ e.user? = none := by
    obtain ⟨base, detail⟩ := e
    cases detail with
    | usageExceeded usage => exact .inr ⟨rfl, rfl⟩
    | _ => exact .inl rfl
  rcases hnode with hsome | ⟨hnone, huser⟩
  · rw [Node.textAt?_of_child? hsome, Node.textAt?_ofUser?]
  · rw [Node.textAt?_eq_none hnone, huser]
    rfl

/-- Events of all kinds that concern a schema have a part of that name. -/
lemma textAt?_schemaId : (Node.record (.event e)).textAt? ("schemaId" :: path)
    = e.schemaId?.bind fun s => (Node.ofNamedId s).textAt? path := by
  obtain ⟨base, detail⟩ := e
  cases detail <;> rfl

/-- Only comments mention a user. -/
lemma textAt?_mentionedUser : (Node.record (.event e)).textAt? ("mentionedUser" :: path)
    = e.comment?.bind fun c => (Node.user c.mentionedUser).textAt? path := by
  obtain ⟨base, detail⟩ := e
  cases detail <;> rfl

lemma textAt?_action : (Node.record (.event e)).textAt? ["action"] = e.action? := by
  obtain ⟨base, detail⟩ := e
  cases detail <;> rfl

/-- A change of a content item has the action that is found by its name. -/
lemma action?_of_content? {e : Event} (h : e.content?.isSome) :
    e.action? = e.content?.map fun c => c.action.name := by
  obtain ⟨base, detail⟩ := e
  cases detail with
  | content change => rfl
  | _ => cases h

end Event

/-! ## The two ways -/

namespace Builtin

/-- The path in the event to what a built-in placeholder stands for. -/
def path? : Builtin → Option Text
  | appId => some "appId.id"
  | appName => some "appId.name"
  | contentAction => some "action"
  | mentionedId => some "mentionedUser"
  | mentionedName => some "mentionedUser.name"
  | mentionedEmail => some "mentionedUser.email"
  | schemaId => some "schemaId.id"
  | schemaName => some "schemaId.name"
  | userId => some "user"
  | userName => some "user.name"
  | userEmail => some "user.email"
  | assetContentUrl | contentUrl | timestampDatetime | timestampDate => none

/-- Nothing else is found on the path: only content items have their action under its name, and no
claim of the user has the type `email`. -/
def Plain (e : Event) : Builtin → Prop
  | contentAction => e.content?.isSome
  | userEmail => ∀ u ∈ e.user?, ∀ c ∈ u.claims, Text.sameLetters c.kind "email" = false
  | mentionedEmail =>
    ∀ c ∈ e.comment?, ∀ claim ∈ c.mentionedUser.claims,
      Text.sameLetters claim.kind "email" = false
  | _ => True

/-- The event has nothing of what the placeholder stands for. -/
def Lacking (e : Event) : Builtin → Prop
  | contentAction => e.action? = none
  | schemaId | schemaName => e.schemaId? = none
  | userId | userName | userEmail => e.user? = none
  | mentionedId | mentionedName | mentionedEmail => e.comment? = none
  | _ => False

variable {b : Builtin} {e : Event} {path : Text}

/-- The path leads to the value. -/
lemma textAt?_path (hpath : b.path? = some path) (hplain : b.Plain e) (links : Addresses) :
    (Node.record (.event e)).textAt? (Placeholder.segments path) = b.value? links e := by
  cases b with
  | appId =>
    cases hpath
    exact e.textAt?_appId ["id"]
  | appName =>
    cases hpath
    exact e.textAt?_appId ["name"]
  | contentAction =>
    cases hpath
    exact e.textAt?_action.trans (Event.action?_of_content? hplain)
  | mentionedId =>
    cases hpath
    exact (e.textAt?_mentionedUser []).trans Option.map_eq_bind.symm
  | mentionedName =>
    cases hpath
    refine (e.textAt?_mentionedUser ["name"]).trans ?_
    exact Option.bind_congr fun c _ => c.mentionedUser.textAt?_name
  | mentionedEmail =>
    cases hpath
    refine (e.textAt?_mentionedUser ["email"]).trans (.trans ?_ Option.map_eq_bind.symm)
    exact Option.bind_congr fun c hc => User.textAt?_email (hplain c hc)
  | schemaId =>
    cases hpath
    exact (e.textAt?_schemaId ["id"]).trans Option.map_eq_bind.symm
  | schemaName =>
    cases hpath
    exact (e.textAt?_schemaId ["name"]).trans Option.map_eq_bind.symm
  | userId =>
    cases hpath
    exact (e.textAt?_user []).trans Option.map_eq_bind.symm
  | userName =>
    cases hpath
    refine (e.textAt?_user ["name"]).trans ?_
    exact Option.bind_congr fun u _ => u.textAt?_name
  | userEmail =>
    cases hpath
    refine (e.textAt?_user ["email"]).trans (.trans ?_ Option.map_eq_bind.symm)
    exact Option.bind_congr fun u hu => User.textAt?_email (hplain u hu)
  | _ => cases hpath

/-- What an event does not have has no value. -/
lemma value?_of_lacking (h : b.Lacking e) (links : Addresses) : b.value? links e = none := by
  cases b with
  | contentAction =>
    have haction : e.action? = none := h
    obtain ⟨base, detail⟩ := e
    cases detail with
    | content change => cases haction
    | _ => rfl
  | schemaId | schemaName =>
    have hschema : e.schemaId? = none := h
    rw [value?, hschema]
    rfl
  | userId | userName | userEmail =>
    have huser : e.user? = none := h
    rw [value?, huser]
    rfl
  | mentionedId | mentionedName | mentionedEmail =>
    have hcomment : e.comment? = none := h
    rw [value?, hcomment]
    rfl
  | _ => cases h

/-- A user who is not there has no claims. -/
lemma plain_of_lacking (h : b.Lacking e) (hb : b ≠ contentAction) : b.Plain e := by
  cases b with
  | contentAction => exact absurd rfl hb
  | userEmail =>
    have huser : e.user? = none := h
    intro u hu
    rw [huser] at hu
    cases hu
  | mentionedEmail =>
    have hcomment : e.comment? = none := h
    intro c hc
    rw [hcomment] at hc
    cases hc
  | _ => trivial

/-- Where the event has nothing of that, the path ends without a value as well. -/
lemma textAt?_of_lacking (hpath : b.path? = some path) (h : b.Lacking e) :
    (Node.record (.event e)).textAt? (Placeholder.segments path) = none := by
  by_cases hb : b = contentAction
  · subst hb
    cases hpath
    exact e.textAt?_action.trans h
  · rw [textAt?_path hpath (plain_of_lacking h hb) (.below [])]
    exact value?_of_lacking h _

/-- A text that is the name of a built-in placeholder stands for that one. -/
lemma find?_name (b : Builtin) : find? b.name = some b := by
  cases b <;> decide

lemma isBlank_of_path? (hpath : b.path? = some path) : ∀ c ∈ path, Text.isBlank c = false := by
  have hall : path.all (fun c => !Text.isBlank c) = true := by
    cases b <;> cases hpath <;> decide
  simpa using hall

end Builtin

/-! ## Templates -/

namespace Formatter

variable {f : Formatter} {e : Event} {b : Builtin} {path : Text}

/-- The name of a built-in placeholder gives way to its value. -/
lemma format_name (f : Formatter) (e : Event) (b : Builtin) :
    f.format e (marker :: b.name) = .ok ((b.value? f.links e).getD fallback) := by
  apply format_ready
  rw [answer_of_builtin b.find?_name]
  rfl

lemma format_name_of_value? {text : Text} (h : b.value? f.links e = some text) :
    f.format e (marker :: b.name) = .ok text := by
  rw [format_name, h]
  rfl

/-- No extension claims what a path in braces stands for. -/
structure Leaves (f : Formatter) (e : Event) (path : Text) : Prop where
  span : ∀ x ∈ f.extensions, x.span e (Placeholder.bracedText "EVENT" path) = .ok none
  path : ∀ x ∈ f.extensions, x.path e (Placeholder.segments path) = none

lemma leaves_of_nil (hf : f.extensions = []) : f.Leaves e path := ⟨by simp [hf], by simp [hf]⟩

/-- Without an extension that claims it, a path gives way to the text at its end. -/
lemma format_path (hf : f.Leaves e path) (hpath : ∀ c ∈ path, Text.isBlank c = false) :
    f.format e (("$\x7bEVENT_" : Text) ++ path ++ ("\x7d" : Text))
      = .ok (((Node.record (.event e)).textAt? (Placeholder.segments path)).getD fallback) := by
  have htext : ("$\x7bEVENT_" : Text) ++ path ++ ("\x7d" : Text)
      = marker :: Placeholder.bracedText "EVENT" path := by
    simp [Placeholder.bracedText, marker]
  have hkind : '_' ∉ ("EVENT" : Text) := by decide
  have hnil : '\x7d' ∉ Text.run [] := List.not_mem_nil
  have hparse := Placeholder.parse?_braced_append hkind hpath hnil
  rw [List.append_nil] at hparse
  have hvalue : f.Decides e 0 (Placeholder.bracedText "EVENT" path) _ :=
    .value (Builtin.find?_brace _) hf.span hparse hf.path rfl
  rw [htext]
  apply format_ready
  rw [hvalue.answer_eq]
  rfl

/-- Without extensions, the day is rendered as what the moment begins with. -/
lemma format_day (hf : f.extensions = []) (e : Event) :
    ∃ moment, f.format e "$\x7bEVENT_timestamp\x7d" = .ok moment ∧ 'T' ∈ moment ∧
      f.format e "$TIMESTAMP_DATE" = .ok (moment.takeWhile (· ≠ 'T')) := by
  have hsegments : Placeholder.segments "timestamp" = [("timestamp" : Text)] := by decide
  have hall : ("timestamp" : Text).all (fun c => !Text.isBlank c) = true := by decide
  have hblank : ∀ c ∈ ("timestamp" : Text), Text.isBlank c = false := by simpa using hall
  have hmoment := format_path (e := e) (leaves_of_nil hf) hblank
  have hday := format_name f e .timestampDate
  rw [hsegments, e.textAt?_timestamp] at hmoment
  refine ⟨_, hmoment, e.base.timestamp.mem_textToSecond, ?_⟩
  rw [Option.getD_some, e.base.timestamp.takeWhile_textToSecond]
  exact hday

/-- Without extensions, a built-in placeholder and the path to what it stands for are rendered as
the same text, for every event, unless something else is found on the path (`Builtin.Plain`). The
day is what the moment begins with, up to the `T`. Where the event has nothing of that, both are
rendered as the fallback. -/
theorem format_builtin (hf : f.extensions = []) (e : Event) :
    (∀ b path, Builtin.path? b = some path → b.Plain e →
      ∃ text, f.format e (marker :: b.name) = .ok text ∧
        f.format e (("$\x7bEVENT_" : Text) ++ path ++ ("\x7d" : Text)) = .ok text) ∧
    (∃ moment, f.format e "$\x7bEVENT_timestamp\x7d" = .ok moment ∧ 'T' ∈ moment ∧
      f.format e "$TIMESTAMP_DATE" = .ok (moment.takeWhile (· ≠ 'T'))) ∧
    (∀ b path, Builtin.path? b = some path → b.Lacking e →
      f.format e (marker :: b.name) = .ok fallback ∧
        f.format e (("$\x7bEVENT_" : Text) ++ path ++ ("\x7d" : Text)) = .ok fallback) := by
  refine ⟨?_, ?_, ?_⟩
  · intro b path hpath hplain
    refine ⟨_, format_name f e b, ?_⟩
    rw [format_path (leaves_of_nil hf) (Builtin.isBlank_of_path? hpath),
      Builtin.textAt?_path hpath hplain f.links]
  · exact format_day hf e
  · intro b path hpath hlacking
    rw [format_name, format_path (leaves_of_nil hf) (Builtin.isBlank_of_path? hpath),
      Builtin.textAt?_of_lacking hpath hlacking, Builtin.value?_of_lacking hlacking]
    exact ⟨rfl, rfl⟩

/-- An address, the day of a moment before the year zero, and a user who is not mentioned. -/
theorem format_builtin_sampleContent :
    plain.format .sampleContent "$\x7bEVENT_user.email\x7d" = .ok "a@b" ∧
    plain.format .sampleContent "$TIMESTAMP_DATE" = .ok "-0001-12-31" ∧
    plain.format .sampleContent "$\x7bEVENT_mentionedUser.name\x7d" = .ok "null" := by
  obtain ⟨hsame, ⟨moment, hmoment, -, hday⟩, hlacking⟩ :=
    format_builtin (f := plain) rfl .sampleContent
  have hplain : Builtin.Plain .sampleContent .userEmail := by
    rintro u ⟨⟩ c hc
    cases List.mem_singleton.1 hc
    decide
  refine ⟨?_, ?_, (hlacking .mentionedName _ rfl rfl).2⟩
  · obtain ⟨text, hname, hpath⟩ := hsame .userEmail _ rfl hplain
    have haddress : plain.format .sampleContent "$USER_EMAIL" = .ok "a@b" := by decide +kernel
    cases hname.symm.trans haddress
    exact hpath
  · have htext : plain.format .sampleContent "$\x7bEVENT_timestamp\x7d"
        = .ok "-0001-12-31T23:59:60Z" := by decide +kernel
    cases hmoment.symm.trans htext
    exact hday

end Formatter
end RuleTemplate
