import ComponentViews.Page.Site
import ComponentViews.Proofs.JsonReading
import ComponentViews.Proofs.MarkupReading

/-! What a page carries for its client stays what it is, whatever values and addresses go
into it: a script of four assignments, and tags with the addresses of the bundles. -/

namespace ComponentViews.Page.Hydration
open Text.Markup

def tag (inner : String) : Tag := { inner := inner.toList, after := [] }

/-- An empty script element for an address. -/
def sourceTags (source : String × String) : List Tag :=
  [tag ("script " ++ source.1 ++ " src=\"" ++ source.2 ++ "\""), tag "/script"]

def stateTags (script : String) : List Tag := [{ inner := "script".toList, after := script.toList }, tag "/script"]

/-- What a page's script element publishes, as written, and the bundles that it loads. -/
structure Parts where
  props : String
  store : String
  assets : String
  own : String
  /-- Attributes and the written address of each bundle. -/
  bundles : List (String × String)

/-- An assignment to a global name, by the text of its right-hand side. -/
def statement (name value : String) : String := "window." ++ name ++ " = " ++ value ++ ";"

def Parts.script (parts : Parts) : String :=
  statement "_GLOBAL_PROPS_" parts.props ++ statement "_GLOBAL_STORE_" parts.store ++
    statement "_GLOBAL_ASSETS_" parts.assets ++ statement "_PROPS_" parts.own

/-- The text of a script's element and then an element for each bundle. -/
def Parts.tags (parts : Parts) : List Tag := stateTags parts.script ++ parts.bundles.flatMap sourceTags

theorem plain_toScriptText (value : Json) : Plain value.toScriptText.toList := by
  have safe : ∀ c ∈ value.toScriptText.toList, Json.unsafeInScript c = false := by
    intro c member
    rw [Json.toScriptText, String.toList_ofList] at member
    exact Json.unsafeInScript_guarded member
  exact ⟨fun member => absurd (safe _ member) (by decide), fun member => absurd (safe _ member) (by decide)⟩

theorem plain_escapeText (address : String) : Plain (escapeText address).toList := by
  simpa [escapeText] using (escape_safe address.toList).2

theorem quote_notMem_escapeText (address : String) : '"' ∉ (escapeText address).toList := by
  simpa [escapeText] using (escape_safe address.toList).1

theorem decode_escapeText (address : String) : decode (escapeText address).toList = address.toList := by
  simp [escapeText, decode_escape]

theorem toList_scriptTag (attributes address : String) :
    (scriptTag attributes address).toList = (sourceTags (attributes, escapeText address)).flatMap Tag.write := by
  simp [scriptTag, sourceTags, tag, Tag.write]

theorem plain_sourceTags {attributes : String} (plain : Plain attributes.toList) (address : String) :
    ∀ tag ∈ sourceTags (attributes, escapeText address), tag.Plain := by
  have name : Plain "script ".toList := by decide
  have opens : Plain " src=\"".toList := by decide
  have ends : Plain "\"".toList := by decide
  have closing : Plain "/script".toList := by decide
  simp only [sourceTags, List.forall_mem_cons, tag, Tag.Plain, String.toList_append, plain_append, plain_nil]
  exact ⟨⟨⟨⟨⟨⟨name, plain⟩, opens⟩, plain_escapeText address⟩, ends⟩, trivial⟩, ⟨closing, trivial⟩, by simp⟩

/-- The bundles whose addresses are not empty, each by its attributes and its written address. -/
def sources (modern legacy : String) : List (String × String) :=
  match modern.isEmpty, legacy.isEmpty with
  | false, false => [("type=\"module\"", escapeText modern), ("nomodule", escapeText legacy)]
  | false, true => [("defer", escapeText modern)]
  | true, false => [("defer", escapeText legacy)]
  | true, true => []

theorem toList_bundleTags (modern legacy : String) :
    (bundleTags modern legacy).toList = ((sources modern legacy).flatMap sourceTags).flatMap Tag.write := by
  unfold bundleTags sources
  cases modern.isEmpty <;> cases legacy.isEmpty <;> simp [toList_scriptTag]

theorem plain_sources (modern legacy : String) : ∀ tag ∈ (sources modern legacy).flatMap sourceTags, tag.Plain := by
  have module : Plain "type=\"module\"".toList := by decide
  have noModule : Plain "nomodule".toList := by decide
  have defer : Plain "defer".toList := by decide
  unfold sources
  split
  all_goals simp only [List.flatMap_cons, List.flatMap_nil, List.append_nil, List.forall_mem_append]
  · exact ⟨plain_sourceTags module modern, plain_sourceTags noModule legacy⟩
  · exact plain_sourceTags defer modern
  · exact plain_sourceTags defer legacy
  · simp

theorem legibleFields_texts (depth : Nat) (entries : List (String × String)) :
    Json.LegibleFields depth (entries.map fun entry => (entry.1, .text entry.2)) := by
  induction entries with
  | nil => trivial
  | cons entry entries ih => exact ⟨trivial, ih⟩

theorem legible_globalAssets (assets : Render.GlobalAssets) : Json.Legible Json.greatestDepth assets.toJson := by
  have texts : ∀ dict : Dict String, Json.Legible 126 (.ofTextDict dict) :=
    fun dict => ⟨(dict.map Json.text).ordered, legibleFields_texts 125 dict.entries⟩
  have keys : ["host", "scripts", "styles"].Pairwise (· < ·) := by decide
  exact ⟨keys, trivial, texts _, texts _, trivial⟩

def partsOf (context : Render.Context) (modern legacy : String) : Parts where
  props := context.globalProps.toScriptText
  store := context.globalStore.toScriptText
  assets := context.globalAssets.toJson.toScriptText
  own := context.props.toScriptText
  bundles := sources modern legacy

theorem toList_script (context : Render.Context) (modern legacy : String) :
    (script context modern legacy).toList = (partsOf context modern legacy).tags.flatMap Tag.write := by
  have published : state context = "<script>" ++ (partsOf context modern legacy).script ++ "</script>" := by
    simp only [state, Parts.script, String.append_assoc]
    rfl
  have bundles : (partsOf context modern legacy).bundles = sources modern legacy := rfl
  rw [script, String.toList_append, toList_bundleTags, published, Parts.tags, List.flatMap_append, bundles]
  simp [stateTags, tag, Tag.write]

theorem plain_statement {name value : String} (plain : Plain name.toList) (plain' : Plain value.toList) :
    Plain (statement name value).toList := by
  have window : Plain "window.".toList := by decide
  have equals : Plain " = ".toList := by decide
  have ends : Plain ";".toList := by decide
  simp only [statement, String.toList_append, plain_append]
  exact ⟨⟨⟨⟨window, plain⟩, equals⟩, plain'⟩, ends⟩

theorem plain_script (context : Render.Context) (modern legacy : String) :
    Plain (partsOf context modern legacy).script.toList := by
  have props : Plain "_GLOBAL_PROPS_".toList := by decide
  have store : Plain "_GLOBAL_STORE_".toList := by decide
  have assets : Plain "_GLOBAL_ASSETS_".toList := by decide
  have own : Plain "_PROPS_".toList := by decide
  simp only [Parts.script, String.toList_append, plain_append]
  exact ⟨⟨⟨plain_statement props (plain_toScriptText _), plain_statement store (plain_toScriptText _)⟩,
    plain_statement assets (plain_toScriptText _)⟩, plain_statement own (plain_toScriptText _)⟩

theorem plain_tags (context : Render.Context) (modern legacy : String) :
    ∀ tag ∈ (partsOf context modern legacy).tags, tag.Plain := by
  have names : Plain "script".toList ∧ Plain "/script".toList := by decide
  rw [Parts.tags, List.forall_mem_append]
  refine ⟨?_, plain_sources modern legacy⟩
  simp only [stateTags, tag, List.forall_mem_cons, Tag.Plain]
  exact ⟨⟨names.1, plain_script context modern legacy⟩, ⟨names.2, plain_nil⟩, by simp⟩

theorem map_sources (modern legacy : String) :
    (sources modern legacy).map Prod.fst ∈ [[], ["defer"], ["type=\"module\"", "nomodule"]] ∧
      (sources modern legacy).map Prod.snd = ([modern, legacy].filter (· ≠ "")).map escapeText := by
  have kept (address : String) : decide (address ≠ "") = !address.isEmpty := by
    cases empty : address.isEmpty <;> simp_all [String.isEmpty_iff]
  simp only [sources, List.filter_cons, kept]
  cases modern.isEmpty <;> cases legacy.isEmpty <;> simp

theorem toList_tagged {opening closing start last : String} (opens : opening.toList = '<' :: start.toList)
    (closes : closing.toList = last.toList ++ ['>']) (value : String) :
    (opening ++ value ++ closing).toList = (tag (start ++ value ++ last)).write := by
  simp [tag, Tag.write, opens, closes]

theorem scan_stylesheetTag (address : String) : scanText (Site.stylesheetTag address).toList =
    some ([], [tag ("link rel=\"stylesheet\" href=\"" ++ escapeText address ++ "\"")]) := by
  have opens : Plain "link rel=\"stylesheet\" href=\"".toList := by decide
  have ends : Plain "\"".toList := by decide
  refine scanText_eq_some_iff.mpr ⟨plain_nil, ?_, ?_⟩
  · simp only [List.forall_mem_singleton, tag, Tag.Plain, String.toList_append, plain_append]
    exact ⟨⟨⟨opens, plain_escapeText address⟩, ends⟩, plain_nil⟩
  · have written : (Site.stylesheetTag address).toList =
        (tag ("link rel=\"stylesheet\" href=\"" ++ escapeText address ++ "\"")).write := toList_tagged rfl rfl _
    simp only [written, List.flatMap_cons, List.flatMap_nil, List.append_nil, List.nil_append]

/-- No value and no address changes the markup that a page carries for its client. A reader finds one script of four
assignments, an element for each bundle and no other brackets; what is assigned reads back as the values, and what the
attributes hold as the addresses. -/
theorem markup_stands (context : Render.Context) (modern legacy : String) (site : Site) (asset : String) :
    (∃ parts : Parts, scanText (script context modern legacy).toList = some ([], parts.tags) ∧
      parts.bundles.map Prod.fst ∈ [[], ["defer"], ["type=\"module\"", "nomodule"]] ∧
      parts.bundles.map (fun bundle => String.ofList (decode bundle.2.toList)) = [modern, legacy].filter (· ≠ "") ∧
      (∀ bundle ∈ parts.bundles, '"' ∉ bundle.2.toList) ∧
      (context.globalProps.Legible Json.greatestDepth → Json.read? parts.props = some context.globalProps) ∧
      (context.globalStore.Legible Json.greatestDepth → Json.read? parts.store = some context.globalStore) ∧
      Json.read? parts.assets = some context.globalAssets.toJson ∧
      (context.props.Legible Json.greatestDepth → Json.read? parts.own = some context.props)) ∧
    ∃ href, scanText (Site.stylesheetTag (site.address asset)).toList =
        some ([], [tag ("link rel=\"stylesheet\" href=\"" ++ href ++ "\"")]) ∧
      '"' ∉ href.toList ∧ decode href.toList = (site.address asset).toList := by
  have bundles : (partsOf context modern legacy).bundles = sources modern legacy := rfl
  obtain ⟨attributes, addresses⟩ := map_sources modern legacy
  refine ⟨⟨partsOf context modern legacy, ?_, attributes, ?_, ?_, Json.read?_toScriptText, Json.read?_toScriptText,
    Json.read?_toScriptText (legible_globalAssets _), Json.read?_toScriptText⟩, ?_⟩
  · exact scanText_eq_some_iff.mpr ⟨plain_nil, plain_tags _ _ _, toList_script ..⟩
  · have decoded : (sources modern legacy).map (fun bundle => String.ofList (decode bundle.2.toList)) =
        ((sources modern legacy).map Prod.snd).map fun value => String.ofList (decode value.toList) := by
      rw [List.map_map]
      rfl
    rw [bundles, decoded, addresses, List.map_map]
    simp [Function.comp_def, decode_escapeText]
  · intro bundle member
    have written : bundle.2 ∈ (sources modern legacy).map Prod.snd := List.mem_map_of_mem member
    rw [addresses] at written
    obtain ⟨address, -, written⟩ := List.mem_map.mp written
    rw [← written]
    exact quote_notMem_escapeText address
  · exact ⟨escapeText (site.address asset), scan_stylesheetTag _, quote_notMem_escapeText _, decode_escapeText _⟩

/-- A context with markup, quotes and line separators in its keys and texts. -/
def hostileContext : Render.Context where
  globalAssets := { host := "/\"><script>", scripts := .empty, styles := .empty }
  globalProps := .object [("</script>", .array [.array [.text "\\\"\u2028&"], .null])]
  globalStore := .number (.integer (-12))
  props := .object [("a", .number (.double false { significand := 6755399441055744, exponent := -52 })), ("b", .bool true)]

theorem hostile_markup_stands : ∃ parts : Parts,
    scanText (script hostileContext "/a&amp;b.js" "").toList = some ([], parts.tags) ∧
      parts.bundles.map (fun bundle => String.ofList (decode bundle.2.toList)) = ["/a&amp;b.js"] ∧
      Json.read? parts.props = some hostileContext.globalProps ∧ Json.read? parts.store = some hostileContext.globalStore ∧
      Json.read? parts.own = some hostileContext.props := by
  have minusTwelve : Json.Number.ReadsBack (.integer (-12)) := ⟨_, rfl, by decide +kernel⟩
  have oneAndHalf : Json.Number.ReadsBack (.double false { significand := 6755399441055744, exponent := -52 }) :=
    ⟨_, rfl, by decide +kernel⟩
  have props : hostileContext.globalProps.Legible Json.greatestDepth :=
    ⟨List.pairwise_singleton .., ⟨⟨trivial, trivial⟩, trivial, trivial⟩, trivial⟩
  have own : hostileContext.props.Legible Json.greatestDepth :=
    ⟨by decide +kernel, oneAndHalf, trivial, trivial⟩
  obtain ⟨⟨parts, scanned, -, addresses, -, readProps, readStore, -, readOwn⟩, -⟩ :=
    markup_stands hostileContext "/a&amp;b.js" "" { host := "", manifest := .empty, legacy := true } ""
  refine ⟨parts, scanned, addresses.trans (by decide +kernel), readProps props, readStore minusTwelve, readOwn own⟩

end ComponentViews.Page.Hydration
