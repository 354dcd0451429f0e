import StateLint.Migration.Json
import StateLint.Outcome.Json
import StateLint.Proofs.Json.Record
import StateLint.Proofs.Transitions
import StateLint.ServerScript.Json
import StateLint.Settings.Json
import StateLint.Sources.Json
import StateLint.State.Json

namespace StateLint

open Json

variable {α : Type}

structure Format (α : Type) where
  -- The fields in the order in which an array lists them.
  fields : List Field
  write : α → Json
  read? : Json → Option α
  -- Whether the numbers of a record are in the range that is read.
  fits : α → Prop := fun _ => True

-- A format in which no record changes on its way, and the form of a record plays no part.
structure Format.RoundTrips (f : Format α) : Prop where
  -- What is written is an object of fields, none of them named twice.
  write_eq : ∀ v, ∃ ms, f.write v = obj ms ∧ (ms.map (·.1)).Sublist (f.fields.map Field.name)
  read_write : ∀ v, f.fits v → f.read? (f.write v) = some v
  fits_of_read : ∀ j v, f.read? j = some v → f.fits v
  write_read : ∀ j v, f.read? j = some v →
    f.read? (f.write v) = some v ∧ (f.read? (f.write v)).map f.write = some (f.write v)
  -- Whatever form a record is in, it is read like the object that names every field with the value
  -- that it has there.
  read_eq : ∀ j, f.read? j = (fieldValues? f.fields j).bind fun js => f.read? (ofFields f.fields js)

theorem Format.RoundTrips.of_readsFields {f : Format α} (read : Record → Option α)
    (hr : f.read? = fun j => (j.toRecord? f.fields.length).bind read)
    (hf : ReadsFields 0 f.fields read) (hn : (f.fields.map Field.name).Nodup)
    (hw : ∀ v, ∃ ms, f.write v = obj ms ∧ (ms.map (·.1)).Sublist (f.fields.map Field.name))
    (read_write : ∀ v, f.fits v → f.read? (f.write v) = some v)
    (fits_of_read : ∀ j v, f.read? j = some v → f.fits v) : f.RoundTrips where
  write_eq := hw
  read_write
  fits_of_read
  write_read j v h := by
    have hv := read_write v (fits_of_read j v h)
    exact ⟨hv, by rw [hv, Option.map_some]⟩
  read_eq j := by
    rw [hr]
    exact hf.read_eq hn j

namespace PlayerAction

def format : Format PlayerAction where
  fields := [.required "name", .required "params", .required "guarded"]
  write := toJson
  read? := ofJson?

theorem ofJson?_toJson (a : PlayerAction) : ofJson? a.toJson = some a := by
  simp [toJson, ofJson?, toRecord?, Record.required, toStr?, toBool?]

theorem format_roundTrips : format.RoundTrips :=
  .of_readsFields _ rfl (.required fun _ => .required fun _ => .required fun _ =>
    .done _) (by decide)
    (fun _ => ⟨_, rfl, .refl _⟩) (fun a _ => ofJson?_toJson a) fun _ _ _ => trivial

end PlayerAction

theorem MigrationStatus.ofWord?_toWord (s : MigrationStatus) : ofWord? s.toWord = some s := by
  cases s <;> rfl

namespace Migration

def format : Format Migration where
  fields := [.required "status", .required "modern", .required "pending", .required "details"]
  write := toJson
  read? := ofJson?

theorem ofJson?_toJson (m : Migration) : ofJson? m.toJson = some m := by
  simp [toJson, ofJson?, toRecord?, Record.required, toWord?, MigrationStatus.ofWord?_toWord]

theorem format_roundTrips : format.RoundTrips :=
  .of_readsFields _ rfl (.required fun _ => .required fun _ => .required fun _ =>
    .required fun _ => .done _)
    (by decide) (fun _ => ⟨_, rfl, .refl _⟩) (fun m _ => ofJson?_toJson m) fun _ _ _ => trivial

end Migration

namespace Settings

def format : Format Settings where
  fields := [.defaulted "initial_state_id" (nat default.initialId.toNat),
    .defaulted "terminal_state_id" (nat default.terminalId.toNat),
    .defaulted "setup_state_name" (str default.setupName),
    .defaulted "end_state_names" (strs default.endNames),
    .defaulted "builtin_notifications" (strs default.builtinNotifications),
    .defaulted "disabled_checks" (strs default.disabledRules)]
  write := toJson
  read? := ofJson?

theorem ofJson?_toJson (s : Settings) : ofJson? s.toJson = some s := by
  simp [toJson, ofJson?, toRecord?, Record.defaulted, toStr?]

theorem format_roundTrips : format.RoundTrips :=
  .of_readsFields _ rfl
    (.defaulted (toUInt32?_nat _) fun _ => .defaulted (toUInt32?_nat _) fun _ =>
      .defaulted rfl fun _ =>
      .defaulted (toList?_strs _) fun _ => .defaulted (toList?_strs _) fun _ =>
        .defaulted (toList?_strs _) fun _ =>
      .done _)
    (by decide) (fun _ => ⟨_, rfl, .refl _⟩) (fun s _ => ofJson?_toJson s) fun _ _ _ => trivial

end Settings

theorem SourceFile.ofJson?_toJson (f : SourceFile) : ofJson? f.toJson = some f := by
  simp [toJson, ofJson?, toRecord?, Record.required, toStr?]

theorem UnreadableFile.ofJson?_toJson (f : UnreadableFile) : ofJson? f.toJson = some f := by
  simp [toJson, ofJson?, toRecord?, Record.required, toStr?]

namespace Sources

def format : Format Sources where
  fields :=
    [.nullable "legacy_states", .required "state_classes", .nullable "state_class_dir",
    .nullable "front_end", .nullable "main_logic", .required "server_scripts",
    .defaulted "unreadable" (arr [])]
  write := toJson
  read? := ofJson?

theorem toOption?_file? (f : Option SourceFile) :
    toOption? SourceFile.ofJson? (toJson.file? f) = some f := by
  cases f with
  | none => rfl
  | some f => exact congrArg (Option.map some) (SourceFile.ofJson?_toJson f)

theorem ofJson?_toJson (s : Sources) : ofJson? s.toJson = some s := by
  simp [toJson, ofJson?, toRecord?, Record.required, Record.nullable, Record.defaulted,
    toOption?_file?, toList?_map SourceFile.ofJson?_toJson,
    toList?_map UnreadableFile.ofJson?_toJson]

theorem format_roundTrips : format.RoundTrips :=
  .of_readsFields _ rfl
    (.nullable fun _ => .required fun _ => .nullable fun _ => .nullable fun _ => .nullable fun _ =>
      .required fun _ =>
      .defaulted rfl fun _ => .done _)
    (by decide) (fun _ => ⟨_, rfl, .refl _⟩) (fun s _ => ofJson?_toJson s) fun _ _ _ => trivial

end Sources

theorem Severity.ofWord?_toWord (s : Severity) : ofWord? s.toWord = some s := by
  cases s <;> rfl

namespace Diagnostic

def format : Format Diagnostic where
  fields :=
    [.required "severity", .required "code", .required "location", .required "message",
    .nullable "hint"]
  write := toJson
  read? := ofJson?

theorem ofJson?_toJson (d : Diagnostic) : ofJson? d.toJson = some d := by
  simp [toJson, ofJson?, toRecord?, Record.required, Record.nullable, toWord?, toStr?,
    Severity.ofWord?_toWord]

theorem format_roundTrips : format.RoundTrips :=
  .of_readsFields _ rfl
    (.required fun _ => .required fun _ => .required fun _ => .required fun _ =>
      .nullable fun _ => .done _)
    (by decide) (fun _ => ⟨_, rfl, .refl _⟩) (fun d _ => ofJson?_toJson d) fun _ _ _ => trivial

end Diagnostic

namespace Outcome

def format : Format Outcome where
  fields :=
    [.required "diagnostics", .required "state_count", .nullable "legacy_source",
    .required "modern_state_files"]
  write := toJson
  read? := ofJson?
  fits o := o.stateCount < UInt64.size ∧ o.classFileCount < UInt64.size

theorem ofJson?_toJson {o : Outcome} (h : format.fits o) : ofJson? o.toJson = some o := by
  simp [toJson, ofJson?, toRecord?, Record.required, Record.nullable,
    toList?_map Diagnostic.ofJson?_toJson, toCount?_nat h.1, toCount?_nat h.2]

theorem fits_of_ofJson? {j : Json} {o} (h : ofJson? j = some o) : format.fits o := by
  simp only [ofJson?, Record.required, Option.bind_eq_bind, Option.bind_eq_some_iff] at h
  obtain ⟨r, -, ds, -, n, ⟨a, -, hn⟩, p, -, m, ⟨b, -, hm⟩, h⟩ := h
  rw [← Option.some.inj h]
  exact ⟨lt_of_toCount? hn, lt_of_toCount? hm⟩

theorem format_roundTrips : format.RoundTrips :=
  .of_readsFields _ rfl (.required fun _ => .required fun _ => .nullable fun _ =>
    .required fun _ => .done _)
    (by decide) (fun _ => ⟨_, rfl, .refl _⟩) (fun _ => ofJson?_toJson) fun _ _ => fits_of_ofJson?

end Outcome

namespace Transitions

theorem ofJson?_toJson (t : Transitions) : ofJson? t.toJson = some t := by
  have h : ∀ es : List (String × UInt32), (es.map fun e => (e.1, nat e.2.toNat)).mapM
      (fun m : String × Json => m.2.toUInt32?.map (m.1, ·)) = some es := by
    intro es
    induction es with
    | nil => rfl
    | cons e es ih => simp [ih]
  simp [toJson, ofJson?, h, ofList_toList]

end Transitions

theorem StateKind.ofWord?_toWord (k : StateKind) : ofWord? k.toWord = some k := by
  cases k <;> rfl

theorem Layout.ofWord?_toWord (l : Layout) : ofWord? l.toWord = some l := by
  cases l <;> rfl

namespace StateDefinition

def format : Format StateDefinition where
  fields :=
    [.required "id", .required "name", .required "kind", .required "transitions",
    .required "declared_actions", .required "has_zombie_handler", .required "source_kind",
    .required "source_location", .nullable "declared_class_name", .defaulted "description" null,
    .defaulted "description_my_turn" null, .defaulted "legacy_callback" null]
  write := toJson
  read? := ofJson?

theorem member?_optionalMember {key' key value} :
    member? (toJson.optionalMember key' value) key = if key' = key then value.map str
      else none := by
  cases value <;> simp [toJson.optionalMember]

theorem fieldValues?_toJson (s : StateDefinition) : fieldValues? format.fields s.toJson =
    some [nat s.id.toNat, str s.name, str s.kind.toWord, s.transitions.toJson, strs s.actions,
      bool s.hasZombie, str s.layout.toWord, str s.location, str? s.className, str? s.description,
      str? s.descriptionMyTurn, str? s.callback] := by
  have ho (x : Option String) : (x.map str).or (some null) = some (str? x) := by cases x <;> rfl
  simp [toJson, format, fieldValues?_obj, Field.name, Field.missing?, member?_optionalMember, ho]

theorem ofJson?_toJson (s : StateDefinition) : ofJson? s.toJson = some s := by
  unfold ofJson?
  refine ReadsAs.read_eq ?_ (fieldValues?_toJson s)
  exact .required (toUInt32?_nat _) <| .required rfl <| .required (StateKind.ofWord?_toWord _) <|
    .required (Transitions.ofJson?_toJson _) <| .required (toList?_strs _) <| .required rfl <|
    .required (Layout.ofWord?_toWord _) <| .required rfl <| .nullable (toOption?_str? _) <|
      .defaulted rfl (toOption?_str? _) <|
    .defaulted rfl (toOption?_str? _) <| .defaulted rfl (toOption?_str? _) <| .done _

theorem toJson_eq (s : StateDefinition) :
    ∃ ms, s.toJson = obj ms ∧ (ms.map (·.1)).Sublist (format.fields.map Field.name) := by
  have ho (key : String) (value : Option String) :
      ((toJson.optionalMember key value).map (·.1)).Sublist [key] := by
    cases value with
    | none => exact List.nil_sublist _
    | some v => exact .refl _
  refine ⟨_, rfl, ?_⟩
  simp only [List.map_append]
  exact (((List.Sublist.refl _).append (ho _ _)).append (ho _ _)).append (ho _ _)

theorem format_roundTrips : format.RoundTrips :=
  .of_readsFields _ rfl
    (.required fun _ => .required fun _ => .required fun _ => .required fun _ => .required fun _ =>
      .required fun _ =>
      .required fun _ => .required fun _ => .nullable fun _ => .defaulted rfl fun _ =>
        .defaulted rfl fun _ =>
      .defaulted rfl fun _ => .done _)
    (by decide) toJson_eq (fun s _ => ofJson?_toJson s) fun _ _ _ => trivial

end StateDefinition

theorem json_roundTrips :
    StateDefinition.format.RoundTrips ∧ Diagnostic.format.RoundTrips ∧ Outcome.format.RoundTrips ∧
      Sources.format.RoundTrips ∧ Settings.format.RoundTrips ∧ Migration.format.RoundTrips ∧
      PlayerAction.format.RoundTrips :=
  ⟨StateDefinition.format_roundTrips, Diagnostic.format_roundTrips, Outcome.format_roundTrips,
    Sources.format_roundTrips, Settings.format_roundTrips, Migration.format_roundTrips,
    PlayerAction.format_roundTrips⟩

-- A hint may be left out, and members that are no fields are passed over.
example :
    Diagnostic.ofJson? (obj [("message", str "twice"), ("line", nat 7), ("code", str "STATE001"),
    ("location", str "states"), ("severity", obj [("error", null)])]) =
      some ⟨.error, "STATE001", "states", "twice", none⟩ := by
  decide

end StateLint
