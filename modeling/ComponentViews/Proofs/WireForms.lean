import ComponentViews.Build.Output
import ComponentViews.Build.Request
import ComponentViews.Proofs.Dictionaries
import Mathlib.Data.List.Forall2
import Mathlib.Data.List.Nodup

/-! The JSON forms of requests and outputs, read back. A record is read from its fields in
any order, whatever stands among them under unknown names, and a field may be left out that
holds its default. -/

namespace ComponentViews.Json

theorem itemsToDocument_eq_map (items : List Json) : itemsToDocument items = items.map toDocument := by
  induction items with
  | nil => rfl
  | cons item rest ih => rw [itemsToDocument, ih, List.map_cons]

theorem fieldsToDocument_eq_map (fields : List (String × Json)) :
    fieldsToDocument fields = fields.map fun field => (some field.1, field.2.toDocument) := by
  induction fields with
  | nil => rfl
  | cons field rest ih => rw [fieldsToDocument, ih, List.map_cons]

/-- A value nests at most so deep. -/
def Nests (depth : Nat) (value : Json) : Prop := (value.toDocument.value? depth).isSome

namespace Nests
variable {depth : Nat} {value : Json}

@[simp] theorem text (depth : Nat) (value : String) : Nests depth (.text value) := by simp [Nests, toDocument, Document.value?]

@[simp] theorem ofText? (depth : Nat) (value : Option String) : Nests depth (Json.ofText? value) := by
  cases value <;> simp [Nests, Json.ofText?, toDocument, Document.value?]

theorem isSome_itemsValue?_iff {items : List Json} :
    (itemsValue? depth (itemsToDocument items)).isSome ↔ ∀ item ∈ items, Nests depth item := by
  induction items with
  | nil => simp [itemsToDocument, itemsValue?]
  | cons first rest ih =>
    rw [List.forall_mem_cons, ← ih, itemsToDocument, itemsValue?, Nests]
    cases first.toDocument.value? depth <;> cases itemsValue? depth (itemsToDocument rest) <;> simp

theorem isSome_fieldsValue?_iff {fields : List (String × Json)} :
    (fieldsValue? depth (fieldsToDocument fields)).isSome ↔ ∀ field ∈ fields, Nests depth field.2 := by
  induction fields with
  | nil => simp [fieldsToDocument, fieldsValue?]
  | cons first rest ih =>
    rw [List.forall_mem_cons, ← ih, fieldsToDocument, fieldsValue?, Nests]
    cases first.2.toDocument.value? depth <;> cases fieldsValue? depth (fieldsToDocument rest) <;> simp

theorem array_iff {items : List Json} : Nests (depth + 1) (.array items) ↔ ∀ item ∈ items, Nests depth item := by
  rw [← isSome_itemsValue?_iff, Nests, toDocument, Document.value?, Option.isSome_map]

theorem object_iff {fields : List (String × Json)} :
    Nests (depth + 1) (.object fields) ↔ ∀ field ∈ fields, Nests depth field.2 := by
  rw [← isSome_fieldsValue?_iff, Nests, toDocument, Document.value?, Option.isSome_map]

end Nests

namespace Document

/-- The object with the given fields. -/
def ofFields (fields : List (String × Document)) : Document := .object (fields.map fun field => (some field.1, field.2))

theorem toDocument_object (fields : List (String × Json)) :
    (Json.object fields).toDocument = ofFields (fields.map fun field => (field.1, field.2.toDocument)) := by
  rw [toDocument, fieldsToDocument_eq_map, ofFields, List.map_map]
  rfl

@[simp] theorem text?_toDocument (value : String) : text? (Json.text value).toDocument = some value := rfl

@[simp] theorem bool?_toDocument (value : Bool) : bool? (Json.bool value).toDocument = some value := rfl

@[simp] theorem optional?_ofText? (value : Option String) : optional? text? (ofText? value).toDocument = some value := by
  cases value <;> rfl

@[simp] theorem optional?_ofFlag? (value : Option Bool) : optional? bool? (ofFlag? value).toDocument = some value := by
  cases value <;> rfl

/-- Items that are read one by one. -/
theorem list?_toDocument {α : Type} {item? : Document → Option α} {values : List α} {items : List Json}
    (read : List.Forall₂ (fun value item => item? item.toDocument = some value) values items) :
    list? item? (Json.array items).toDocument = some values := by
  rw [toDocument, itemsToDocument_eq_map, list?]
  induction read with
  | nil => rfl
  | cons first later ih => simp [first, ih]

@[simp] theorem texts?_toDocument (texts : List String) : texts? (ofTexts texts).toDocument = some texts := by
  refine list?_toDocument ?_
  rw [List.forall₂_map_right_iff, List.forall₂_same]
  exact fun text _ => rfl

@[simp] theorem dict?_ofTextDict (dict : Dict String) : dict? text? (ofTextDict dict).toDocument = some dict := by
  have read : (fieldsToDocument (dict.map Json.text).entries).mapM (keyed? text?) = some dict.entries := by
    rw [fieldsToDocument_eq_map, Dict.map, List.map_map]
    induction dict.entries with
    | nil => rfl
    | cons entry rest ih => simp_all [keyed?, Function.comp_def, toDocument, text?]
  rw [ofTextDict, ofDict, toDocument, dict?, read]
  refine congrArg some (Dict.ext_get? fun name => ?_)
  rw [Dict.get?, Dict.entries_ofList dict.ordered, Dict.get?]

end Document

namespace Record
variable {names known : List String} {defaults written varied : List (String × Json)} {α : Type} {item? : Document → Option α}

/-- Other fields for the same record: those that are written in any order, but for some that hold a default, and among them
any that are not known. -/
def Varies (known : List String) (defaults written varied : List (String × Json)) : Prop :=
  ∃ kept others, varied.Perm (kept ++ others) ∧ kept.Sublist written ∧ (∀ field ∈ written, field ∈ kept ∨ field ∈ defaults) ∧
    ∀ field ∈ others, field.1 ∉ known

theorem Varies.refl (known : List String) (defaults written : List (String × Json)) : Varies known defaults written written :=
  ⟨written, [], by simp, .refl _, fun _ member => .inl member, by simp⟩

theorem Varies.of_sublist {kept : List (String × Json)} (within : kept.Sublist written)
    (spared : ∀ field ∈ written, field ∈ kept ∨ field ∈ defaults) : Varies known defaults written kept :=
  ⟨kept, [], by simp, within, spared, by simp⟩

/-- A field without a default is never left out. -/
theorem Varies.mem (varies : Varies known defaults written varied) {field : String × Json} (member : field ∈ written)
    (needed : field.1 ∉ defaults.map Prod.fst) : field ∈ varied := by
  obtain ⟨kept, others, perm, -, spared, -⟩ := varies
  have here := (spared field member).resolve_right fun spare => needed (List.mem_map_of_mem spare)
  exact perm.mem_iff.mpr (List.mem_append_left _ here)

/-- A record has the fields that are written, except that it may lack a default. -/
def Holds (record : Record) (defaults written : List (String × Json)) : Prop :=
  ∀ name value, (name, value) ∈ written →
    record.fields.lookup name = some value.toDocument ∨ record.fields.lookup name = none ∧ (name, value) ∈ defaults

theorem lookup_of_mem {fields : List (String × α)} {name : String} {value : α} (distinct : (fields.map Prod.fst).Nodup)
    (member : (name, value) ∈ fields) : fields.lookup name = some value := by
  obtain ⟨front, rest, rfl⟩ := List.append_of_mem member
  rw [List.lookup_eq_some_iff]
  refine ⟨front, rest, rfl, fun field earlier => ?_⟩
  rw [List.map_append, List.nodup_append] at distinct
  simpa using Ne.symm (distinct.2.2 _ (List.mem_map_of_mem earlier) _ List.mem_cons_self)

variable {record : Record} {name : String}

/-- A field without a default is read as it is written. -/
theorem Holds.required? (holds : record.Holds defaults written) (distinct : (written.map Prod.fst).Nodup)
    (item? : Document → Option α) (member : name ∈ written.map Prod.fst) (needed : name ∉ defaults.map Prod.fst) :
    record.required? name item? = (written.lookup name).bind fun value => item? value.toDocument := by
  obtain ⟨⟨_, value⟩, listed, rfl⟩ := List.mem_map.mp member
  rw [lookup_of_mem distinct listed]
  rcases holds _ value listed with found | ⟨-, spare⟩
  · rw [Record.required?, found]
    rfl
  · exact absurd (List.mem_map_of_mem spare) needed

/-- A field with a default is read as it is written, also where it is left out. -/
theorem Holds.default? (holds : record.Holds defaults written) (distinct : (written.map Prod.fst).Nodup)
    {item? : Document → Option α} {default : α} (member : name ∈ written.map Prod.fst)
    (spared : ∀ value, (name, value) ∈ defaults → item? value.toDocument = some default) :
    record.default? name item? default = (written.lookup name).bind fun value => item? value.toDocument := by
  obtain ⟨⟨_, value⟩, listed, rfl⟩ := List.mem_map.mp member
  rw [lookup_of_mem distinct listed]
  rcases holds _ value listed with found | ⟨missing, spare⟩
  · rw [Record.default?, found]
    rfl
  · rw [Record.default?, missing]
    exact (spared value spare).symm

theorem ofDocument?_ofFields (names : List String) (fields : List (String × Document)) :
    ofDocument? names (.ofFields fields) =
      if ((fields.filter (names.contains ·.1)).map Prod.fst).Nodup then
        some { fields := fields.filter (names.contains ·.1) }
      else none := by
  have keyed : (fields.map fun field => (some field.1, field.2)).mapM (Document.keyed? some) = some fields := by
    induction fields with
    | nil => rfl
    | cons field rest ih => simp_all [Document.keyed?]
  simp only [Document.ofFields, ofDocument?, keyed, Option.bind_eq_bind, Option.bind_some]

theorem ofDocument?_object (names : List String) (fields : List (String × Json)) :
    ofDocument? names (Json.object fields).toDocument =
      if ((fields.filter (names.contains ·.1)).map Prod.fst).Nodup then
        some { fields := (fields.filter (names.contains ·.1)).map fun field => (field.1, field.2.toDocument) }
      else none := by
  simp only [Document.toDocument_object, ofDocument?_ofFields, List.filter_map, Function.comp_def, List.map_map]

/-- A record is read from any other fields for it. -/
theorem Varies.exists_record (varies : Varies names defaults written varied) (distinct : (written.map Prod.fst).Nodup)
    (inside : ∀ field ∈ written, field.1 ∈ names) :
    ∃ record, ofDocument? names (Json.object varied).toDocument = some record ∧ record.Holds defaults written := by
  obtain ⟨kept, others, perm, within, spared, strange⟩ := varies
  have known : (varied.filter (names.contains ·.1)).Perm kept := by
    have filtered := perm.filter (names.contains ·.1)
    have all : kept.filter (names.contains ·.1) = kept :=
      List.filter_eq_self.mpr fun field member => by simpa using inside field (within.subset member)
    have none : others.filter (names.contains ·.1) = [] :=
      List.filter_eq_nil_iff.mpr fun field member => by simpa using strange field member
    rwa [List.filter_append, all, none, List.append_nil] at filtered
  have keys := (known.map Prod.fst).nodup_iff.mpr (distinct.sublist (within.map Prod.fst))
  refine ⟨_, by rw [ofDocument?_object, if_pos keys], fun name value member => ?_⟩
  by_cases here : (name, value) ∈ kept
  · left
    refine lookup_of_mem (by simpa [Function.comp_def] using keys) ?_
    exact List.mem_map.mpr ⟨_, known.mem_iff.mpr here, rfl⟩
  · refine .inr ⟨?_, (spared _ member).resolve_left here⟩
    refine List.lookup_eq_none_iff.mpr fun field listed => ?_
    obtain ⟨⟨other, value'⟩, stands, rfl⟩ := List.mem_map.mp listed
    have stands := known.mem_iff.mp stands
    have different : name ≠ other := by
      rintro rfl
      have same := lookup_of_mem distinct (within.subset stands)
      rw [lookup_of_mem distinct member] at same
      exact here (Option.some.inj same ▸ stands)
    simpa using different

/-- Of other fields for a tagged record one is the tag, and the rest are other fields for the record. -/
theorem Varies.untag {tag : String} {value : Json} (varies : Varies (tag :: names) defaults ((tag, value) :: written) varied)
    (absent : tag ∉ written.map Prod.fst) (needed : tag ∉ defaults.map Prod.fst) :
    varied.filter (·.1 = tag) = [(tag, value)] ∧ Varies names defaults written (varied.filter (·.1 ≠ tag)) := by
  obtain ⟨kept, others, perm, within, spared, strange⟩ := varies
  have tagged := (spared _ List.mem_cons_self).resolve_right fun spare => needed (List.mem_map_of_mem spare)
  obtain ⟨kept, rfl, below⟩ : ∃ rest, kept = (tag, value) :: rest ∧ rest.Sublist written := by
    cases within with
    | cons _ below => exact absurd (List.mem_map_of_mem (below.subset tagged)) absent
    | cons_cons _ below => exact ⟨_, rfl, below⟩
  have plain : ∀ field ∈ kept ++ others, field.1 ≠ tag := by
    intro field member same
    rcases List.mem_append.mp member with member | member
    · exact absent (same ▸ List.mem_map_of_mem (below.subset member))
    · exact strange field member (same ▸ List.mem_cons_self)
  constructor
  · have filtered := perm.filter (·.1 = tag)
    have none : (kept ++ others).filter (·.1 = tag) = [] :=
      List.filter_eq_nil_iff.mpr fun field member => by simpa using plain field member
    rw [List.cons_append, List.filter_cons_of_pos (by simp), none] at filtered
    exact List.perm_singleton.mp filtered
  · have filtered := perm.filter (·.1 ≠ tag)
    have all : (kept ++ others).filter (·.1 ≠ tag) = kept ++ others :=
      List.filter_eq_self.mpr fun field member => by simpa using plain field member
    rw [List.cons_append, List.filter_cons_of_neg (by simp), all] at filtered
    refine ⟨kept, others, filtered, below, fun field member => ?_, fun field member => ?_⟩
    · rcases spared field (.tail _ member) with here | spare
      · rcases List.mem_cons.mp here with rfl | here
        · exact absurd (List.mem_map_of_mem member) absent
        · exact .inl here
      · exact .inr spare
    · exact fun known => strange field member (.tail _ known)

end Record
end ComponentViews.Json

namespace ComponentViews.Build
open Json (Document Record Nests)

namespace ComponentOptions
variable {options : ComponentOptions} {value : Json}

def fields (options : ComponentOptions) : List (String × Json) := [
  ("generate", .text options.generate), ("hydratable", .bool options.hydratable), ("dev", .bool options.dev),
  ("preserveComments", .bool options.preserveComments), ("preserveWhitespace", .bool options.preserveWhitespace),
  ("css", .bool options.css)]

/-- An object that spells out options, all of which have to be there. -/
def Varied (options : ComponentOptions) (value : Json) : Prop :=
  ∃ varied, value = .object varied ∧ Record.Varies fieldNames [] options.fields varied

theorem decode?_varied (varied : options.Varied value) : decode? value.toDocument = some options := by
  obtain ⟨varied, rfl, varies⟩ := varied
  have distinct : (options.fields.map Prod.fst).Nodup := show fieldNames.Nodup by decide
  obtain ⟨record, read, holds⟩ := varies.exists_record distinct fun field member => List.mem_map_of_mem member
  simp [decode?, read, holds.required? distinct, fields, List.lookup_cons]

theorem varied_toJson (options : ComponentOptions) : options.Varied options.toJson := ⟨_, rfl, .refl ..⟩

end ComponentOptions

theorem Target.decode?_toJson (target : Target) : decode? target.toJson.toDocument = some target := by cases target <;> rfl

theorem Format.decode?_toJson (format : Format) : decode? format.toJson.toDocument = some format := by cases format <;> rfl

namespace Request
variable {request : Request} {value : Json}

/-- The fields of a request around an object for the options of its component. -/
def fields (request : Request) (component : Json) : List (String × Json) := [
  ("entry", .text request.entry.text), ("target", request.target.toJson), ("format", request.format.toJson),
  ("replace", .ofTextDict request.replace), ("preprocess", .ofTexts request.preprocess), ("svelte", component),
  ("dedupe", .ofTexts request.dedupe), ("virtualModules", .ofTextDict request.virtualModules),
  ("sourcemap", .bool request.sourcemap), ("outputName", .ofText? request.outputName), ("legacy", .bool request.legacy)]

/-- What a request stands for that lacks the name of a file or the flag for older browsers. -/
def defaults : List (String × Json) := [("outputName", .null), ("legacy", .bool false)]

/-- An object that spells out a request. -/
def Varied (request : Request) (value : Json) : Prop :=
  ∃ component varied, request.component.Varied component ∧ value = .object varied ∧
    Record.Varies fieldNames defaults (request.fields component) varied

theorem decode?_varied (varied : request.Varied value) : decode? value.toDocument = some request := by
  obtain ⟨component, varied, nested, rfl, varies⟩ := varied
  have distinct : ((request.fields component).map Prod.fst).Nodup := show fieldNames.Nodup by decide
  obtain ⟨record, read, holds⟩ := varies.exists_record distinct fun field member => List.mem_map_of_mem member
  have outputName : record.default? "outputName" (Document.optional? Document.text?) none = _ :=
    holds.default? distinct (by simp [fields]) (by simp [defaults]; rfl)
  have legacy : record.default? "legacy" Document.bool? false = _ :=
    holds.default? distinct (by simp [fields]) (by simp [defaults])
  simp [decode?, read, holds.required? distinct, outputName, legacy, fields, defaults, List.lookup_cons,
    Target.decode?_toJson, Format.decode?_toJson, ComponentOptions.decode?_varied nested]

/-- A request leaves out the name of a file where it has none. -/
theorem varied_toJson (request : Request) : request.Varied request.toJson := by
  refine ⟨request.component.toJson, _, request.component.varied_toJson, rfl, .of_sublist ?_ ?_⟩
  · cases named : request.outputName <;> simp [fields, optionalField, named, Json.ofText?]
  · cases named : request.outputName <;> simp [fields, defaults, optionalField, named, Json.ofText?]

end Request

namespace Artifact
variable {artifact : Artifact} {value : Json}

def tag : Artifact → String
  | .chunk _ _ _ => "chunk"
  | .asset _ _ => "asset"

def fieldNames : Artifact → List String
  | .chunk _ _ _ => chunkFields
  | .asset _ _ => assetFields

def fields : Artifact → List (String × Json)
  | .chunk fileName code map => [("fileName", .text fileName), ("code", .text code), ("map", .ofText? map)]
  | .asset fileName source => [("fileName", .text fileName), ("source", .text source)]

/-- What a chunk stands for that lacks a source map. -/
def defaults : Artifact → List (String × Json)
  | .chunk _ _ _ => [("map", .null)]
  | .asset _ _ => []

/-- The fields of an artifact behind its tag. -/
def tagged (artifact : Artifact) : List (String × Json) := ("type", .text artifact.tag) :: artifact.fields

/-- An object that spells out an artifact, with its tag anywhere among the fields. -/
def Varied (artifact : Artifact) (value : Json) : Prop :=
  ∃ varied, value = .object varied ∧
    Record.Varies ("type" :: artifact.fieldNames) artifact.defaults artifact.tagged varied

theorem toJson_eq (artifact : Artifact) : artifact.toJson = .object artifact.tagged := by
  cases artifact <;> rfl

theorem nests_toJson (depth : Nat) (artifact : Artifact) : Nests (depth + 1) artifact.toJson := by
  cases artifact <;> simp [toJson, Nests.object_iff]

theorem varied_toJson (artifact : Artifact) : artifact.Varied artifact.toJson := ⟨_, artifact.toJson_eq, .refl ..⟩

theorem nodup_fields (artifact : Artifact) : (artifact.fields.map Prod.fst).Nodup := by
  cases artifact with
  | chunk => exact show chunkFields.Nodup by decide
  | asset => exact show assetFields.Nodup by decide

/-- Without its tag an artifact is read from other fields for it like any record. -/
theorem decodeTagged?_varied {varied : List (String × Json)}
    (varies : Record.Varies artifact.fieldNames artifact.defaults artifact.fields varied) :
    decodeTagged? (Json.text artifact.tag).toDocument (Json.object varied).toDocument = some artifact := by
  have distinct := artifact.nodup_fields
  obtain ⟨record, read, holds⟩ := varies.exists_record distinct fun field member => by
    cases artifact <;> exact List.mem_map_of_mem member
  cases artifact with
  | chunk fileName code map =>
    have read : Record.ofDocument? chunkFields (Json.object varied).toDocument = some record := read
    have missing : record.default? "map" (Document.optional? Document.text?) none = _ :=
      holds.default? distinct (by simp [fields]) (by simp [defaults]; rfl)
    change decodeChunk? _ = _
    simp [decodeChunk?, read, holds.required? distinct, missing, fields, defaults, List.lookup_cons]
  | asset fileName source =>
    have read : Record.ofDocument? assetFields (Json.object varied).toDocument = some record := read
    change decodeAsset? _ = _
    simp [decodeAsset?, read, holds.required? distinct, fields, defaults, List.lookup_cons]

/-- An artifact is read as a value first, which must not nest too deep. -/
theorem decode?_varied (varied : artifact.Varied value) (nests : Nests (Json.greatestDepth - outerDepth) value) :
    decode? value.toDocument = some artifact := by
  obtain ⟨varied, rfl, varies⟩ := varied
  obtain ⟨tagged, rest⟩ := varies.untag (by cases artifact <;> simp [fields]) (by cases artifact <;> simp [defaults])
  obtain ⟨kept, known⟩ := Option.isSome_iff_exists.mp nests
  have tags : (Json.fieldsToDocument varied).filter isTag = [(some "type", (Json.text artifact.tag).toDocument)] := by
    rw [Json.fieldsToDocument_eq_map, List.filter_map]
    have same : isTag ∘ (fun field : String × Json => (some field.1, field.2.toDocument)) = fun field : String × Json => decide (field.1 = "type") := by
      funext field
      simp [isTag]
    rw [same, tagged]
    rfl
  have others : ((Json.fieldsToDocument varied).filter fun field => !isTag field) =
      Json.fieldsToDocument (varied.filter (·.1 ≠ "type")) := by
    rw [Json.fieldsToDocument_eq_map, Json.fieldsToDocument_eq_map, List.filter_map]
    congr 2
    funext field
    simp [isTag]
  have opened : decode? (Json.object varied).toDocument = untag? (Json.object varied).toDocument := by
    rw [decode?, known]
    rfl
  rw [opened, Json.toDocument, untag?, tags]
  simp only [others]
  exact decodeTagged?_varied rest

end Artifact

namespace Output
variable {output : Output} {value : Json}

def fields (output : Output) (artifacts : List Json) : List (String × Json) :=
  [("output", .array artifacts), ("css", .text output.css)]

/-- An object that spells out an output, which may lack styles where it has none. -/
def Varied (output : Output) (value : Json) : Prop :=
  ∃ artifacts varied, List.Forall₂ Artifact.Varied output.artifacts artifacts ∧ value = .object varied ∧
    Record.Varies fieldNames [("css", .text "")] (output.fields artifacts) varied

theorem varied_toJson (output : Output) : output.Varied output.toJson := by
  refine ⟨output.artifacts.map Artifact.toJson, _, ?_, rfl, .refl ..⟩
  rw [List.forall₂_map_right_iff, List.forall₂_same]
  exact fun artifact _ => artifact.varied_toJson

theorem decode?_varied (varied : output.Varied value) (nests : Nests Json.greatestDepth value) :
    decode? value.toDocument = some output := by
  obtain ⟨artifacts, varied, nested, rfl, varies⟩ := varied
  have distinct : ((output.fields artifacts).map Prod.fst).Nodup := show fieldNames.Nodup by decide
  obtain ⟨record, read, holds⟩ := varies.exists_record distinct fun field member => List.mem_map_of_mem member
  have listed : Nests (Json.greatestDepth - Artifact.outerDepth + 1) (.array artifacts) :=
    Nests.object_iff.mp nests _ (varies.mem (show ("output", .array artifacts) ∈ _ by simp [fields]) (by simp))
  have items : Document.list? Artifact.decode? (Json.array artifacts).toDocument = some output.artifacts := by
    have each := (List.forall₂_and_left _ _).mpr ⟨Nests.array_iff.mp listed, nested.flip⟩
    exact Document.list?_toDocument (each.flip.imp fun artifact item both => Artifact.decode?_varied both.2 both.1)
  have css : record.default? "css" Document.text? "" = _ := holds.default? distinct (by simp [fields]) (by simp)
  simp [decode?, read, holds.required? distinct, css, fields, List.lookup_cons, items]

theorem nests_toJson (depth : Nat) (output : Output) : Nests (depth + 3) output.toJson := by
  simp [toJson, Nests.object_iff, Nests.array_iff, Artifact.nests_toJson]

end Output

/-- Requests and outputs are read back from every object that spells them out, and so from their own JSON. -/
theorem read_back_from_varied :
    (∀ request : Request, Request.decode? request.toJson.toDocument = some request ∧
      ∀ value, request.Varied value → Request.decode? value.toDocument = some request) ∧
    ∀ output : Output, Output.decode? output.toJson.toDocument = some output ∧
      ∀ value, output.Varied value → Nests Json.greatestDepth value → Output.decode? value.toDocument = some output :=
  ⟨fun request => ⟨Request.decode?_varied request.varied_toJson, fun _ => Request.decode?_varied⟩,
    fun output => ⟨Output.decode?_varied output.varied_toJson (output.nests_toJson _), fun _ => Output.decode?_varied⟩⟩

/-- Fields from the last to the first, behind some others. -/
def turned (kept others : List (String × Json)) : List (String × Json) := (kept ++ others).reverse

theorem varies_turned {known : List String} {defaults written : List (String × Json)} (count : Nat) {others : List (String × Json)}
    (spared : ∀ field ∈ written.drop count, field ∈ defaults) (strange : ∀ field ∈ others, field.1 ∉ known) :
    Record.Varies known defaults written (turned (written.take count) others) := by
  refine ⟨_, others, List.reverse_perm _, List.take_sublist count written, fun field member => ?_, strange⟩
  rw [← List.take_append_drop count written] at member
  exact (List.mem_append.mp member).imp_right (spared field)

def pageRequest : Request := .server (.forEnv "testing") { text := "/views/Page.svelte" }

/-- A request with its fields turned around, without those that hold a default, behind an unknown one. -/
def turnedRequest : Json :=
  .object (turned ((pageRequest.fields (.object (turned (pageRequest.component.fields.take 6) []))).take 9)
    [("jobs", .number (.integer 4))])

theorem varied_turnedRequest : pageRequest.Varied turnedRequest :=
  ⟨_, _, ⟨_, rfl, varies_turned 6 (fun _ member => member) (by decide)⟩, rfl, varies_turned 9 (fun _ member => member) (by decide)⟩

def pageOutput : Output := { artifacts := [.asset "Page.css" "h1", .chunk "Page.js" "exports" none], css := "" }

/-- An output with its fields turned around, so that each artifact has its tag last, and without the source map and the
styles that it lacks. -/
def turnedOutput : Json :=
  .object (turned (([("output", .array [
    .object (turned ((Artifact.asset "Page.css" "h1").tagged.take 3) [("names", .array [.null])]),
    .object (turned ((Artifact.chunk "Page.js" "exports" none).tagged.take 3) [("source", .null)])]), ("css", .text "")]).take 1)
      [("version", .number (.integer 3))])

theorem varied_turnedOutput : pageOutput.Varied turnedOutput := by
  have sheet : (Artifact.asset "Page.css" "h1").Varied
      (.object (turned ((Artifact.asset "Page.css" "h1").tagged.take 3) [("names", .array [.null])])) :=
    ⟨_, rfl, varies_turned 3 (fun _ member => member) (by decide)⟩
  have chunk : (Artifact.chunk "Page.js" "exports" none).Varied
      (.object (turned ((Artifact.chunk "Page.js" "exports" none).tagged.take 3) [("source", .null)])) :=
    ⟨_, rfl, varies_turned 3 (fun _ member => member) (by decide)⟩
  exact ⟨_, _, .cons sheet (.cons chunk .nil), rfl, varies_turned 1 (fun _ member => member) (by decide)⟩

/-- A request and an output whose fields are turned around. -/
theorem turned_forms_read_back : pageRequest.Varied turnedRequest ∧
    Request.decode? turnedRequest.toDocument = some pageRequest ∧
    pageOutput.Varied turnedOutput ∧ Nests Json.greatestDepth turnedOutput ∧
    Output.decode? turnedOutput.toDocument = some pageOutput := by
  have nests : Nests Json.greatestDepth turnedOutput := by unfold Nests; decide +kernel
  exact ⟨varied_turnedRequest, (read_back_from_varied.1 _).2 _ varied_turnedRequest, varied_turnedOutput, nests,
    (read_back_from_varied.2 _).2 _ varied_turnedOutput nests⟩

end ComponentViews.Build
