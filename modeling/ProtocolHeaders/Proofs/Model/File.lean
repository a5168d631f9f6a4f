import ProtocolHeaders.Model.RoundTrip
import ProtocolHeaders.Proofs.Json.RoundTrip

/-!
# Model files lose nothing

The data of a model fits the records of model files, and texts of these records lose nothing.
So a model is read back from its text, with all that its strings hold and with absent texts
apart from empty ones, unless it is nested more deeply than a reader follows.
-/

namespace ProtocolHeaders.ModelFormat

open Json (Data Fits Shape)

/-- The fields of every record have keys of their own, and what is left out is what a reader
fills in. -/
theorem isLossless_format : format.IsLossless where
  distinct name := by cases name <;> decide
  restores name := by
    cases name <;> simp [format, Json.Field.required, Json.Field.text, Json.Field.list,
      Json.Field.sparseList, Json.Field.optionalText, Shape.vacant?]

/-! ## The data of a model fits -/

/-- A text that may be absent fits its shape. -/
theorem fits_ofOptionalText (value : Option String) :
    Fits format .optionalText (.ofOptionalText value) := by
  cases value with
  | none => exact .absent
  | some text => exact .optionalText text

/-- Texts fit the shape of a list. -/
theorem fits_ofTexts (values : List String) : Fits format (.list .text) (.ofTexts values) :=
  .list (List.forall_mem_map.mpr fun value _ => .text value)

/-- A list of entities fits if the data of each of them does. -/
theorem fits_map {α : Type} {item : Shape Record} {toData : α -> Data}
    (fit : ∀ entity, Fits format item (toData entity)) (entities : List α) :
    Fits format (.list item) (.list (entities.map toData)) :=
  .list (List.forall_mem_map.mpr fun entity _ => fit entity)

/-- The kind of an enumeration is one of the names for it. -/
theorem fits_enumerationKind (kind : EnumerationKind) :
    Fits format (.choice (enumerationKinds.map Prod.snd)) (nameIn enumerationKinds kind) := by
  refine .choice ?_
  cases kind <;> decide

/-- The kind of a type expression is one of the names for it. -/
theorem fits_typeKind (kind : TypeKind) :
    Fits format (.choice (typeKinds.map Prod.snd)) (nameIn typeKinds kind) := by
  refine .choice ?_
  cases kind <;> decide

mutual

/-- The data of a type expression fits, with its alternatives. -/
theorem fits_ofTypeExpr : (type : TypeExpr) ->
    Fits format (.record .typeExpr) (ofTypeExpr type)
  | ⟨kind, value, items, since, deprecated⟩ => by
      refine .record rfl ?_
      simp only [format, List.zip_cons_cons, List.zip_nil_left, List.forall_mem_cons]
      exact ⟨fits_typeKind kind, .text value, .list (fits_ofTypeExprs items),
        fits_ofOptionalText since, fits_ofOptionalText deprecated, nofun⟩

/-- The data of type expressions fits. -/
theorem fits_ofTypeExprs : (types : List TypeExpr) ->
    ∀ data ∈ ofTypeExprs types, Fits format (.record .typeExpr) data
  | [] => nofun
  | type :: types =>
      List.forall_mem_cons.mpr ⟨fits_ofTypeExpr type, fits_ofTypeExprs types⟩

end

/-- A value of an enumeration fits its record. -/
theorem fits_ofEnumerationValue (value : EnumerationValue) :
    Fits format (.record .enumerationValue) (ofEnumerationValue value) := by
  refine .record rfl ?_
  simp only [format, List.zip_cons_cons, List.zip_nil_left, List.forall_mem_cons]
  exact ⟨.text _, .text _, .text _, nofun⟩

/-- An enumeration fits its record. -/
theorem fits_ofEnumeration (enumeration : Enumeration) :
    Fits format (.record .enumeration) (ofEnumeration enumeration) := by
  refine .record rfl ?_
  simp only [format, List.zip_cons_cons, List.zip_nil_left, List.forall_mem_cons]
  exact ⟨.text _, .text _, fits_enumerationKind enumeration.kind,
    fits_map fits_ofEnumerationValue enumeration.values, fits_ofOptionalText enumeration.since,
    fits_ofOptionalText enumeration.deprecated, nofun⟩

/-- A property fits its record. -/
theorem fits_ofProperty (property : Property) :
    Fits format (.record .property) (ofProperty property) := by
  refine .record rfl ?_
  simp only [format, List.zip_cons_cons, List.zip_nil_left, List.forall_mem_cons]
  exact ⟨.text _, .text _, fits_ofTypeExpr property.type, nofun⟩

/-- An alias fits its record. -/
theorem fits_ofAlias (entity : Alias) : Fits format (.record .typeAlias) (ofAlias entity) := by
  refine .record rfl ?_
  simp only [format, List.zip_cons_cons, List.zip_nil_left, List.forall_mem_cons]
  exact ⟨.text _, .text _, fits_ofTypeExpr entity.type, fits_ofTexts entity.dependencies.names,
    fits_ofOptionalText entity.since, fits_ofOptionalText entity.deprecated, nofun⟩

mutual

/-- The data of an interface fits, with those inside it. -/
theorem fits_ofInterface : (interface : Interface) ->
    Fits format (.record .interface) (ofInterface interface)
  | ⟨name, documentation, bases, properties, children, dependencies, since, deprecated⟩ => by
      refine .record rfl ?_
      simp only [format, List.zip_cons_cons, List.zip_nil_left, List.forall_mem_cons]
      exact ⟨.text name, .text documentation, fits_ofTexts bases,
        fits_map fits_ofProperty properties, .list (fits_ofInterfaces children),
        fits_ofTexts dependencies.names, fits_ofOptionalText since,
        fits_ofOptionalText deprecated, nofun⟩

/-- The data of interfaces fits. -/
theorem fits_ofInterfaces : (interfaces : List Interface) ->
    ∀ data ∈ ofInterfaces interfaces, Fits format (.record .interface) data
  | [] => nofun
  | interface :: others =>
      List.forall_mem_cons.mpr ⟨fits_ofInterface interface, fits_ofInterfaces others⟩

end

/-- A request fits its record. -/
theorem fits_ofRequest (request : Request) :
    Fits format (.record .request) (ofRequest request) := by
  refine .record rfl ?_
  simp only [format, List.zip_cons_cons, List.zip_nil_left, List.forall_mem_cons]
  exact ⟨.text _, fits_ofOptionalText request.params, fits_ofOptionalText request.result,
    fits_ofOptionalText request.error, .text _, nofun⟩

/-- A notification fits its record. -/
theorem fits_ofNotification (notification : Notification) :
    Fits format (.record .notification) (ofNotification notification) := by
  refine .record rfl ?_
  simp only [format, List.zip_cons_cons, List.zip_nil_left, List.forall_mem_cons]
  exact ⟨.text _, fits_ofOptionalText notification.params, .text _, nofun⟩

/-- The data of a model fits. -/
theorem fits_ofModel (model : Model) : Fits format (.record .model) (ofModel model) := by
  refine .record rfl ?_
  simp only [format, List.zip_cons_cons, List.zip_nil_left, List.forall_mem_cons]
  exact ⟨fits_map fits_ofEnumeration model.enumerations, fits_map fits_ofAlias model.aliases,
    .list (fits_ofInterfaces model.interfaces), fits_map fits_ofRequest model.requests,
    fits_map fits_ofNotification model.notifications, nofun⟩

end ProtocolHeaders.ModelFormat

namespace ProtocolHeaders.Model

open Json (nesting nestingLimit)

/-- A model is read if its data is. -/
theorem read_eq_ok {text : List Char} {model : Model}
    (found : Json.read ModelFormat.format (.record .model) text =
      .ok (ModelFormat.ofModel model)) :
    Model.read (String.ofList text) = .ok model := by
  rw [Model.read, String.toList_ofList, found, Json.ok_bind, ModelFormat.toModel_ofModel]
  rfl

/-- A model is read back from its text without spaces. -/
theorem read_write {model : Model}
    (nested : nesting (Json.write ModelFormat.format .compact 0 (.record .model)
      (ModelFormat.ofModel model)) ≤ nestingLimit) :
    Model.read model.write = .ok model := by
  have found := Json.read_write ModelFormat.isLossless_format Json.Layout.isSpacing_compact
    (ModelFormat.fits_ofModel model) nested Json.isBlank_nil
  rw [List.append_nil] at found
  exact read_eq_ok found

/-- A model that is nested no more deeply than a reader follows is read back from its text
without spaces and from its file. -/
theorem written_model_is_read_back (model : Model)
    (nested : nesting model.write.toList ≤ nestingLimit) :
    Model.read model.write = .ok model ∧ Model.read model.writeFile = .ok model := by
  have fits := ModelFormat.fits_ofModel model
  have lossless := ModelFormat.isLossless_format
  have compact := Json.Layout.isSpacing_compact
  have pretty := Json.Layout.isSpacing_pretty
  rw [Model.write, Json.writeCompact, String.toList_ofList] at nested
  constructor
  · have found := Json.read_write lossless compact fits nested Json.isBlank_nil
    rw [List.append_nil] at found
    exact read_eq_ok found
  · rw [Json.nesting_write_eq compact pretty fits 0 0] at nested
    have newline : Json.IsBlank ['\n'] := List.forall_mem_singleton.mpr rfl
    exact read_eq_ok (Json.read_write lossless pretty fits nested newline)

/-- A model with alternatives inside alternatives, a structure inside a structure, an empty
deprecation message, and strings with quotes, brackets, control and non-ASCII characters. -/
def intricateModel : Model :=
  { aliases :=
      [{ name := "Either", type := .union [.base "int", .union [.reference "Größe"]],
         dependencies := .ofList ["Größe", "A"], deprecated := some "" }]
    interfaces :=
      [{ name := "Größe", documentation := "a \"b\" [\x00\x1f]\n\\",
         children :=
          [{ name := "inner", properties := [{ name := "x?", type := .literal "😀" }] }] }]
    requests := [{ method := "textDocument/hover", result := some "" }] }

/-- A model is read back with all that its strings hold. -/
theorem intricate_model_is_read_back :
    nesting intricateModel.write.toList ≤ nestingLimit ∧
      Model.read intricateModel.write = .ok intricateModel ∧
      Model.read intricateModel.writeFile = .ok intricateModel := by
  have nested : nesting intricateModel.write.toList ≤ nestingLimit := by
    rw [Model.write, Json.writeCompact, String.toList_ofList]
    decide +kernel
  exact ⟨nested, written_model_is_read_back intricateModel nested⟩

end ProtocolHeaders.Model
