import ComponentViews.Bundle.Manifest
import ComponentViews.Proofs.BundleNames
import ComponentViews.Proofs.Dictionaries
import ComponentViews.Proofs.PathSegments

/-! Under which key a manifest files what it is given. Of several files for one key the
first one counts, and a bundle that a pattern has named is filed under its own name. -/

namespace ComponentViews

theorem Path.intercalate_splitSlashes (text : List Char) : ['/'].intercalate (splitSlashes text) = text := by
  induction text with
  | nil => rfl
  | cons c rest ih =>
    obtain ⟨segment, segments, shape⟩ := List.exists_cons_of_ne_nil (splitSlashes_ne_nil rest)
    rw [shape] at ih
    by_cases slash : c = '/'
    · simp [splitSlashes, slash, shape, List.intercalate_cons_cons, ih]
    · cases segments <;> simp_all [splitSlashes, List.intercalate_cons_cons]

theorem Path.splitSlashes_append_plain (text : List Char) {plain : List Char} (free : '/' ∉ plain) :
    ∃ front last, splitSlashes text = front ++ [last] ∧ splitSlashes (text ++ plain) = front ++ [last ++ plain] := by
  induction text with
  | nil => exact ⟨[], [], rfl, splitSlashes_of_notMem free⟩
  | cons c rest ih =>
    obtain ⟨front, last, before, after⟩ := ih
    by_cases slash : c = '/'
    · exact ⟨[] :: front, last, by simp [splitSlashes, slash, before], by simp [splitSlashes, slash, after]⟩
    · cases front with
      | nil => exact ⟨[], c :: last, by simp [splitSlashes, slash, before], by simp [splitSlashes, slash, after]⟩
      | cons first front =>
        exact ⟨(c :: first) :: front, last, by simp [splitSlashes, slash, before], by simp [splitSlashes, slash, after]⟩

theorem Path.ofList_concat (front : List String) (last : String) :
    ofList (front ++ [last]) = (if front.isEmpty then "" else ofList front ++ "/") ++ last := by
  unfold ofList
  induction front with
  | nil => simp
  | cons first rest ih =>
    cases rest with
    | nil => simp [String.intercalate_cons_cons]
    | cons second rest =>
      simp only [List.cons_append, List.isEmpty_cons, Bool.false_eq_true, if_false] at ih ⊢
      simp only [String.intercalate_cons_cons, ih, String.append_assoc]

theorem Path.ofList_segments (text : String) : Path.ofList ({ text } : Path).segments = text := by
  apply String.toList_inj.mp
  have slash : ("/" : String).toList = ['/'] := rfl
  rw [ofList, String.toList_intercalate, slash, segments, List.map_map]
  simpa [Function.comp_def] using intercalate_splitSlashes text.toList

namespace Bundle.Manifest
variable {pattern : Pattern} {text : String} {extension : Extension}

def shelf (manifest : Manifest) : Extension → Dict String
  | .script => manifest.scripts
  | .style => manifest.styles

/-- On which shelf and under which key a file is filed, unless the pattern does not fit its name. -/
def filing? (pattern : Pattern) (location : Location) : Option (Extension × String) :=
  (pattern.capture? (location.getLastD "")).map fun capture =>
    (capture.extension, directoryPart location ++ capture.name)

/-- Scripts, stylesheets, and the files that the pattern does not fit. -/
def chart (manifest : Manifest) : Option Extension → Dict String
  | some extension => manifest.shelf extension
  | none => manifest.rest

/-- In which part of a manifest a file belongs, and under which key. -/
def place (pattern : Pattern) (location : Location) : Option Extension × String :=
  match pattern.capture? (location.getLastD "") with
  | some capture => (some capture.extension, directoryPart location ++ capture.name)
  | none => (none, Path.ofList location)

theorem place_eq_some_iff {location : Location} {key : String} :
    place pattern location = (some extension, key) ↔ filing? pattern location = some (extension, key) := by
  unfold place filing?
  cases pattern.capture? (location.getLastD "") <;> simp

/-- Filing a file fills its place, where nothing is filed yet, and changes nothing else. -/
theorem get?_add (manifest : Manifest) (location : Location) (kind : Option Extension) (key : String) :
    ((add pattern manifest location).chart kind).get? key = ((manifest.chart kind).get? key).or
      (if place pattern location = (kind, key) then some (Path.ofList location) else none) := by
  unfold add place
  cases pattern.capture? (location.getLastD "") with
  | none => rcases kind with _ | _ | _ <;> simp [chart, shelf, Dict.get?_insertNew, eq_comm]
  | some capture =>
    obtain ⟨name, hash, extension⟩ := capture
    cases extension <;> rcases kind with _ | _ | _ <;> simp [chart, shelf, Dict.get?_insertNew, eq_comm]

/-- Of the files that belong in a place the first one is filed there. -/
theorem get?_chart_foldl_add (locations : List Location) (manifest : Manifest) (kind : Option Extension) (key : String) :
    ((locations.foldl (add pattern) manifest).chart kind).get? key = ((manifest.chart kind).get? key).or
      ((locations.find? fun location => place pattern location = (kind, key)).map Path.ofList) := by
  induction locations generalizing manifest with
  | nil => simp
  | cons location rest ih =>
    rw [List.foldl_cons, ih, get?_add, Option.or_assoc]
    congr 1
    by_cases here : place pattern location = (kind, key) <;> simp [here]

/-- Of the files that belong under a key the first one is filed there. -/
theorem get?_foldl_add (locations : List Location) (manifest : Manifest) (extension : Extension) (key : String) :
    ((locations.foldl (add pattern) manifest).shelf extension).get? key = ((manifest.shelf extension).get? key).or
      ((locations.find? fun location => filing? pattern location = some (extension, key)).map Path.ofList) := by
  have same (location : Location) : decide (filing? pattern location = some (extension, key)) =
      decide (place pattern location = (some extension, key)) := decide_eq_decide.mpr place_eq_some_iff.symm
  simp only [same]
  exact get?_chart_foldl_add locations manifest (some extension) key

def lastSegment (name : String) : String := ({ text := name } : Path).segments.getLastD ""

/-- Where the file of a bundle lies: in the directory that the bundle's name tells, under the file name that the pattern
makes of the last segment. -/
def bundleFile (text outputName hash : String) (extension : Extension) : Location :=
  ({ text := outputName } : Path).segments.dropLast ++ [fileName text (lastSegment outputName) hash extension]

theorem dropLast_concat_getLastD {names : List String} (inner : names ≠ []) :
    names.dropLast ++ [names.getLastD ""] = names := by
  rw [List.getLastD_eq_getLast?, List.getLast?_eq_some_getLast inner]
  exact List.dropLast_concat_getLast inner

theorem directoryPart_segments (name file : String) :
    directoryPart (({ text := name } : Path).segments.dropLast ++ [file]) ++ lastSegment name = name := by
  unfold lastSegment
  have inner : ({ text := name } : Path).segments ≠ [] := by
    simpa [Path.segments] using Path.splitSlashes_ne_nil name.toList
  generalize shape : ({ text := name } : Path).segments = segments at inner ⊢
  calc directoryPart (segments.dropLast ++ [file]) ++ segments.getLastD ""
      = Path.ofList (segments.dropLast ++ [segments.getLastD ""]) := by
        rw [Path.ofList_concat]
        simp [directoryPart]
    _ = name := by rw [dropLast_concat_getLastD inner, ← shape, Path.ofList_segments]

theorem lastSegment_append (name : String) {suffix : String} (plain : '/' ∉ suffix.toList) :
    lastSegment (name ++ suffix) = lastSegment name ++ suffix := by
  obtain ⟨front, last, before, after⟩ := Path.splitSlashes_append_plain name.toList plain
  simp [lastSegment, Path.segments, before, after]

theorem bundleFile_append (text name hash : String) (extension : Extension) {suffix : String} (plain : '/' ∉ suffix.toList) :
    bundleFile text (name ++ suffix) hash extension =
      ({ text := name } : Path).segments.dropLast ++ [fileName text (lastSegment name ++ suffix) hash extension] := by
  obtain ⟨front, last, before, after⟩ := Path.splitSlashes_append_plain name.toList plain
  rw [bundleFile, lastSegment_append name plain]
  simp [Path.segments, before, after]

/-- A bundle that the pattern has named is filed under its own name, if its last segment is a name. -/
theorem filing?_bundleFile {outputName hash : String} (accepted : Pattern.ofText text = .ok pattern)
    (valid : Pattern.isHash hash.toList) : filing? pattern (bundleFile text outputName hash extension) =
      if Pattern.isName (lastSegment outputName).toList then some (extension, outputName) else none := by
  have named := directoryPart_segments outputName (fileName text (lastSegment outputName) hash extension)
  rw [filing?, bundleFile, List.getLastD_concat, Pattern.capture?_fileName accepted valid, Pattern.reading]
  by_cases kept : Pattern.isName (lastSegment outputName).toList
  · simp [kept, named]
  · simp [kept]

theorem endsWith_of_filing? {location : Location} {key : String} (filed : filing? pattern location = some (extension, key)) :
    extension.text.toList.isSuffixOf (location.getLastD "").toList := by
  obtain ⟨capture, found, same⟩ := Option.map_eq_some_iff.mp filed
  cases same
  exact Pattern.endsWith_of_capture? found

end Bundle.Manifest
end ComponentViews
