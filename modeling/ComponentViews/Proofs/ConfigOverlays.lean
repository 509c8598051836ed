import ComponentViews.Config
import ComponentViews.Proofs.JsonReading
import ComponentViews.Proofs.WireForms

/-! Configurations that are written in part. Whichever fields an object gives, in whatever order and with whatever
unknown fields among them, these are read and the others have their defaults; but a field that is given twice is refused. -/

namespace ComponentViews.Json.Record
variable {α : Type} {names : List String} {given : String → Bool} {written : List (String × Json)}
  {fields : List (String × Document)}

theorem lookup_perm {first second : List (String × α)} (perm : first.Perm second) (distinct : (first.map Prod.fst).Nodup)
    (name : String) : first.lookup name = second.lookup name := by
  cases found : second.lookup name with
  | none =>
    rw [List.lookup_eq_none_iff] at found ⊢
    intro field member
    exact found field (perm.mem_iff.mp member)
  | some value =>
    obtain ⟨front, rest, rfl, -⟩ := List.lookup_eq_some_iff.mp found
    apply lookup_of_mem distinct
    rw [perm.mem_iff]
    exact List.mem_append_right _ List.mem_cons_self

theorem lookup_map {β : Type} (f : α → β) (entries : List (String × α)) (name : String) :
    (entries.map fun entry => (entry.1, f entry.2)).lookup name = (entries.lookup name).map f := by
  induction entries with
  | nil => rfl
  | cons entry rest ih =>
    rw [List.map_cons, List.lookup_cons, List.lookup_cons, ih]
    cases name == entry.1 <;> rfl

/-- Of two lists of the same names, each field of the second one where it is given. -/
theorem lookup_zipWith {lower upper : List (String × α)} (same : lower.map Prod.fst = upper.map Prod.fst) (name : String) :
    (List.zipWith (fun below above => (below.1, if given below.1 then above.2 else below.2)) lower upper).lookup name =
      if given name then upper.lookup name else lower.lookup name := by
  induction lower generalizing upper with
  | nil =>
    cases upper with
    | nil => simp
    | cons above later => simp at same
  | cons below rest ih =>
    cases upper with
    | nil => simp at same
    | cons above later =>
      simp only [List.map_cons, List.cons.injEq] at same
      rw [List.zipWith_cons_cons, List.lookup_cons, List.lookup_cons, List.lookup_cons, ih same.2, ← same.1]
      cases here : name == below.1 with
      | true =>
        rw [eq_of_beq here]
        cases given below.1 <;> rfl
      | false => rfl

/-- What spells out the given ones of the fields that are written. -/
def spelled (given : String → Bool) (written : List (String × Json)) : List (String × Document) :=
  (written.filter (given ·.1)).map fun field => (field.1, field.2.toDocument)

/-- Fields of which some spell out the given ones, in any order, and the others have names that are not known. -/
def Lists (names : List String) (given : String → Bool) (written : List (String × Json)) (fields : List (String × Document)) :
    Prop :=
  ∃ others, fields.Perm (spelled given written ++ others) ∧ ∀ field ∈ others, field.1 ∉ names

theorem keys_spelled (given : String → Bool) (written : List (String × Json)) :
    (spelled given written).map Prod.fst = (written.filter (given ·.1)).map Prod.fst := by
  rw [spelled, List.map_map]
  rfl

theorem nodup_keys_spelled (distinct : (written.map Prod.fst).Nodup) : ((spelled given written).map Prod.fst).Nodup := by
  rw [keys_spelled]
  exact distinct.sublist (List.filter_sublist.map Prod.fst)

theorem lookup_spelled (given : String → Bool) (written : List (String × Json)) (name : String) :
    (spelled given written).lookup name = if given name then (written.lookup name).map Json.toDocument else none := by
  rw [spelled, lookup_map, Dict.lookup_filter]
  split <;> rfl

namespace Lists

theorem perm_known (lists : Lists names given written fields) (inside : ∀ field ∈ written, field.1 ∈ names) :
    (fields.filter (names.contains ·.1)).Perm (spelled given written) := by
  obtain ⟨others, perm, strange⟩ := lists
  have filtered := perm.filter (names.contains ·.1)
  have all : (spelled given written).filter (names.contains ·.1) = spelled given written := by
    rw [List.filter_eq_self]
    intro field member
    obtain ⟨field, listed, rfl⟩ := List.mem_map.mp member
    simpa using inside field (List.mem_of_mem_filter listed)
  have none : others.filter (names.contains ·.1) = [] :=
    List.filter_eq_nil_iff.mpr fun field member => by simpa using strange field member
  rwa [List.filter_append, all, none, List.append_nil] at filtered

/-- The record of the fields has the given ones and no others. -/
theorem exists_record (lists : Lists names given written fields) (distinct : (written.map Prod.fst).Nodup)
    (inside : ∀ field ∈ written, field.1 ∈ names) :
    ∃ record, ofDocument? names (.ofFields fields) = some record ∧
      ∀ name, record.fields.lookup name = if given name then (written.lookup name).map Json.toDocument else none := by
  have known := lists.perm_known inside
  have keys := (known.map Prod.fst).nodup_iff.mpr (nodup_keys_spelled distinct)
  refine ⟨_, by rw [ofDocument?_ofFields, if_pos keys], ?_⟩
  intro name
  rw [lookup_perm known keys, lookup_spelled]

/-- A given field makes no record with a further one of its name. -/
theorem ofDocument?_repeated (lists : Lists names given written fields) (inside : ∀ field ∈ written, field.1 ∈ names)
    {name : String} (member : name ∈ written.map Prod.fst) (chosen : given name) {value : Document}
    {repeated : List (String × Document)} (perm : repeated.Perm ((name, value) :: fields)) :
    ofDocument? names (.ofFields repeated) = none := by
  obtain ⟨field, stands, rfl⟩ := List.mem_map.mp member
  have further := perm.filter (names.contains ·.1)
  rw [List.filter_cons_of_pos (by simpa using inside field stands)] at further
  have keys := (further.trans ((lists.perm_known inside).cons _)).map Prod.fst
  rw [List.map_cons, keys_spelled] at keys
  have twice : field.1 ∈ (written.filter (given ·.1)).map Prod.fst :=
    List.mem_map_of_mem (List.mem_filter.mpr ⟨stands, chosen⟩)
  rw [ofDocument?_ofFields, if_neg]
  rw [keys.nodup_iff, List.nodup_cons]
  exact fun distinct => distinct.1 twice

end Lists

/-- A field is read as it is written where it is given, and has its default elsewhere. -/
theorem default?_of_lookup {record : Record} {name : String} {item? : Document → Option α} {json : Json} {value default : α}
    (found : record.fields.lookup name = if given name then (written.lookup name).map Json.toDocument else none)
    (stands : written.lookup name = some json) (read : item? json.toDocument = some value) :
    record.default? name item? default = some (if given name then value else default) := by
  rw [Record.default?, found, stands]
  cases given name with
  | true => exact read
  | false => rfl

end ComponentViews.Json.Record

namespace ComponentViews.Config
open Json (Document Record)

/-- The fields that a configuration is written by. -/
def fields (config : Config) : List (String × Json) :=
  [("viewsDirs", pathsToJson config.viewsDirs), ("extension", .text config.extension),
    ("bundlesDirs", pathsToJson config.bundlesDirs), ("bundlesPattern", .text config.bundlesPattern),
    ("bundlesHost", .text config.bundlesHost), ("env", .ofText? config.env), ("dev", .ofFlag? config.dev),
    ("cache", .ofFlag? config.cache), ("hydratable", .bool config.hydratable), ("legacy", .bool config.legacy),
    ("replace", .ofTextDict config.replace), ("preprocess", .ofTexts config.preprocess),
    ("dedupe", .ofTexts config.dedupe), ("templatePath", .ofText? (config.templatePath.map Path.text)),
    ("wrapperTemplatePath", .ofText? (config.wrapperTemplatePath.map Path.text)),
    ("scratchDir", .text config.scratchDir.text)]

theorem toJson_eq (config : Config) : config.toJson = .object config.fields := rfl

theorem names_fields (config : Config) : config.fields.map Prod.fst = fieldNames := rfl

theorem nodup_fieldNames : fieldNames.Nodup := by decide

/-- The given fields of one configuration, and the others of another. -/
def overlaid (lower upper : Config) (given : String → Bool) : Config where
  viewsDirs := if given "viewsDirs" then upper.viewsDirs else lower.viewsDirs
  extension := if given "extension" then upper.extension else lower.extension
  bundlesDirs := if given "bundlesDirs" then upper.bundlesDirs else lower.bundlesDirs
  bundlesPattern := if given "bundlesPattern" then upper.bundlesPattern else lower.bundlesPattern
  bundlesHost := if given "bundlesHost" then upper.bundlesHost else lower.bundlesHost
  env := if given "env" then upper.env else lower.env
  dev := if given "dev" then upper.dev else lower.dev
  cache := if given "cache" then upper.cache else lower.cache
  hydratable := if given "hydratable" then upper.hydratable else lower.hydratable
  legacy := if given "legacy" then upper.legacy else lower.legacy
  replace := if given "replace" then upper.replace else lower.replace
  preprocess := if given "preprocess" then upper.preprocess else lower.preprocess
  dedupe := if given "dedupe" then upper.dedupe else lower.dedupe
  templatePath := if given "templatePath" then upper.templatePath else lower.templatePath
  wrapperTemplatePath := if given "wrapperTemplatePath" then upper.wrapperTemplatePath else lower.wrapperTemplatePath
  scratchDir := if given "scratchDir" then upper.scratchDir else lower.scratchDir

theorem path?_text (path : Path) : path? (Json.text path.text).toDocument = some path := rfl

theorem list?_pathsToJson (paths : List Path) : Document.list? path? (pathsToJson paths).toDocument = some paths := by
  refine Document.list?_toDocument ?_
  rw [List.map_map, List.forall₂_map_right_iff, List.forall₂_same]
  exact fun path _ => rfl

theorem optional?_path? (path : Option Path) :
    Document.optional? path? (Json.ofText? (path.map Path.text)).toDocument = some path := by cases path <;> rfl

variable {config : Config} {given : String → Bool} {listed : List (String × Document)}

theorem decode?_of_lists (lists : Record.Lists fieldNames given config.fields listed) :
    decode? (.ofFields listed) = some (ofDefaults.overlaid config given) := by
  obtain ⟨record, read, found⟩ := lists.exists_record (config.names_fields ▸ nodup_fieldNames)
    fun field member => config.names_fields ▸ List.mem_map_of_mem member
  have field {α : Type} (name : String) {item? : Document → Option α} {json : Json} {value default : α}
      (stands : config.fields.lookup name = some json) (item : item? json.toDocument = some value) :
      record.default? name item? default = some (if given name then value else default) :=
    Record.default?_of_lookup (found name) stands item
  rw [decode?, read, Option.bind_eq_bind, Option.bind_some]
  rw [field "viewsDirs" rfl (list?_pathsToJson config.viewsDirs),
    field "extension" rfl (Document.text?_toDocument config.extension),
    field "bundlesDirs" rfl (list?_pathsToJson config.bundlesDirs),
    field "bundlesPattern" rfl (Document.text?_toDocument config.bundlesPattern),
    field "bundlesHost" rfl (Document.text?_toDocument config.bundlesHost),
    field "env" rfl (Document.optional?_ofText? config.env),
    field "dev" rfl (Document.optional?_ofFlag? config.dev),
    field "cache" rfl (Document.optional?_ofFlag? config.cache),
    field "hydratable" rfl (Document.bool?_toDocument config.hydratable),
    field "legacy" rfl (Document.bool?_toDocument config.legacy),
    field "replace" rfl (Document.dict?_ofTextDict config.replace),
    field "preprocess" rfl (Document.texts?_toDocument config.preprocess),
    field "dedupe" rfl (Document.texts?_toDocument config.dedupe),
    field "templatePath" rfl (optional?_path? config.templatePath),
    field "wrapperTemplatePath" rfl (optional?_path? config.wrapperTemplatePath),
    field "scratchDir" rfl (path?_text config.scratchDir)]
  rfl

theorem decode?_repeated (lists : Record.Lists fieldNames given config.fields listed) {name : String}
    (known : name ∈ fieldNames) (chosen : given name) {value : Document} {repeated : List (String × Document)}
    (perm : repeated.Perm ((name, value) :: listed)) : decode? (.ofFields repeated) = none := by
  have refused := lists.ofDocument?_repeated (fun field member => config.names_fields ▸ List.mem_map_of_mem member)
    (config.names_fields ▸ known) chosen perm
  rw [decode?, refused]
  rfl

theorem overlaid_all (lower upper : Config) : (lower.overlaid upper fun _ => true) = upper := rfl

theorem fields_overlaid (lower upper : Config) (given : String → Bool) : (lower.overlaid upper given).fields =
    List.zipWith (fun below above => (below.1, if given below.1 then above.2 else below.2)) lower.fields upper.fields := by
  simp only [fields, overlaid, List.zipWith_cons_cons, List.zipWith_nil_left, List.cons.injEq, Prod.mk.injEq, true_and,
    and_true]
  repeat' apply And.intro
  all_goals split <;> rfl

theorem lookup_fields_overlaid (lower upper : Config) (given : String → Bool) (name : String) :
    (lower.overlaid upper given).fields.lookup name =
      if given name then upper.fields.lookup name else lower.fields.lookup name := by
  have same : lower.fields.map Prod.fst = upper.fields.map Prod.fst := rfl
  rw [fields_overlaid]
  exact Record.lookup_zipWith same name

theorem decode?_toJson (config : Config) : decode? config.toJson.toDocument = some config := by
  have all : Record.Lists fieldNames (fun _ => true) config.fields
      (config.fields.map fun field => (field.1, field.2.toDocument)) := by
    refine ⟨[], ?_, by simp⟩
    rw [Record.spelled, List.filter_eq_self.mpr fun _ _ => rfl, List.append_nil]
  rw [toJson_eq, Document.toDocument_object, decode?_of_lists all, overlaid_all]

theorem ofText_of_read? {source : String} {document : Document} (read : Document.read? source.toList = some document) :
    ofText source = match decode? document with
      | some config => .ok config
      | none => .error (.configuration .unreadable) := by
  rw [ofText, read]
  rfl

/-- A text with some fields of a configuration, in any order and among any unknown ones, is read as this configuration's
given fields over the default ones; with any known field of the text a second time it is a misconfiguration. With
all of its fields, a configuration is read back. -/
theorem partial_text_overlays_defaults (lists : Record.Lists fieldNames given config.fields listed) :
    (∀ source, Document.read? source.toList = some (.ofFields listed) →
        ofText source = .ok (ofDefaults.overlaid config given)) ∧
      (∀ name, (ofDefaults.overlaid config given).fields.lookup name =
        if given name then config.fields.lookup name else ofDefaults.fields.lookup name) ∧
      (∀ name ∈ fieldNames, given name → ∀ value repeated, repeated.Perm ((name, value) :: listed) →
        ∀ source, Document.read? source.toList = some (.ofFields repeated) →
          ofText source = .error (.configuration .unreadable)) ∧
      ∀ source, Document.read? source.toList = some config.toJson.toDocument → ofText source = .ok config := by
  refine ⟨?_, ?_, ?_, ?_⟩
  · intro source read
    rw [ofText_of_read? read, decode?_of_lists lists]
  · exact lookup_fields_overlaid ofDefaults config given
  · intro name known chosen value repeated perm source read
    rw [ofText_of_read? read, decode?_repeated lists known chosen perm]
  · intro source read
    rw [ofText_of_read? read, decode?_toJson]

def pagesConfig : Config :=
  { ofDefaults with viewsDirs := [{ text := "pages" }], extension := ".html", dev := some true }

def pagesGiven (name : String) : Bool := name = "viewsDirs" ∨ name = "dev"

/-- Two fields of the configuration around an unknown one. -/
def pagesFields : List (String × Document) :=
  [("dev", .bool true), ("theme", .null), ("viewsDirs", .array [.text (some "pages")])]

theorem lists_pagesFields : Record.Lists fieldNames pagesGiven pagesConfig.fields pagesFields := by
  refine ⟨[("theme", .null)], ?_, by decide⟩
  change (pagesFields.take 2 ++ pagesFields.drop 2).Perm (pagesFields.drop 2 ++ pagesFields.take 2)
  exact List.perm_append_comm

theorem read?_pages {first : String × Json} {fields : List (String × Json)} {source : String}
    (written : source = (Json.object (first :: fields)).toScriptText) (legible : Json.LegibleFields 1 (first :: fields)) :
    Document.read? source.toList = some (Json.object (first :: fields)).toDocument := by
  rw [written]
  exact Document.read?_of_reads (Json.reads_object (Json.readsFields_of_legible legible))

def pagesText : String := "\x7b\"dev\":true,\"theme\":null,\"viewsDirs\":[\"pages\"]\x7d"

/-- The text with one of its fields a second time. -/
def doubledText : String := "\x7b\"dev\":null,\"dev\":true,\"theme\":null,\"viewsDirs\":[\"pages\"]\x7d"

theorem pages_overlay_defaults :
    ofText pagesText = .ok { ofDefaults with viewsDirs := [{ text := "pages" }], dev := some true } ∧
      ofText doubledText = .error (.configuration .unreadable) := by
  let object : List (String × Json) := [("dev", .bool true), ("theme", .null), ("viewsDirs", .ofTexts ["pages"])]
  have legible : Json.LegibleFields 1 object := ⟨trivial, trivial, ⟨trivial, trivial⟩, trivial⟩
  have once : pagesText = (Json.object object).toScriptText := by decide +kernel
  have twice : doubledText = (Json.object (("dev", .null) :: object)).toScriptText := by decide +kernel
  obtain ⟨overlaid, -, refused, -⟩ := partial_text_overlays_defaults lists_pagesFields
  constructor
  · exact overlaid pagesText (read?_pages once legible)
  · exact refused "dev" (by decide) (by decide) .null _ (.refl _) doubledText (read?_pages twice ⟨trivial, legible⟩)

end ComponentViews.Config
