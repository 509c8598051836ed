import ComponentViews.Proofs.MarkedGlobals

/-! The policy of merging globals, object by object. The objects stand in four layers, and a name
gets through with the value of the most specific object that has it, if the call brings
the name or any of the objects marks it. Whatever is no object, no array of marks or no
text among the marks might as well not be there. -/

namespace ComponentViews.Render.Globals

/-- Where the objects stand: in a scope, or in the call itself. -/
inductive Layer where
  | app
  | request
  | response
  | call

namespace Layer

/-- The more specific a layer is, the higher it ranks. -/
def rank : Layer → Nat
  | .app => 0
  | .request => 1
  | .response => 2
  | .call => 3

def scope? (scopes : Scopes) : Layer → Option Locals
  | .app => some scopes.app
  | .request => some scopes.request
  | .response => some scopes.response
  | .call => none

end Layer

/-- The objects that count for a key. A scope has one if it holds an object under the key, the call is always one. -/
inductive Candidate (key : String) (scopes : Scopes) (call : Locals) : Layer → Locals → Prop where
  | scope {layer : Layer} {scope : Locals} {fields : List (String × Json)} (stands : layer.scope? scopes = some scope)
    (held : scope.get? key = some (.object fields)) : Candidate key scopes call layer (.ofList fields)
  | call : Candidate key scopes call .call call

/-- A text among the marks of an object. -/
def Marks (object : Locals) (name : String) : Prop :=
  ∃ names, object.get? "$serialized" = some (.array names) ∧ .text name ∈ names

/-- A name that gets through, if anybody has it. -/
structure Admits (key : String) (scopes : Scopes) (call : Locals) (name : String) : Prop where
  free : name ≠ "$serialized"
  listed : name ∈ call.keys ∨ ∃ layer object, Candidate key scopes call layer object ∧ Marks object name

/-- The most specific object that has a name has it with this value. -/
def Prevails (key : String) (scopes : Scopes) (call : Locals) (name : String) (value : Json) : Prop :=
  ∃ layer object, Candidate key scopes call layer object ∧ object.get? name = some value ∧
    ∀ other above, Candidate key scopes call other above → layer.rank < other.rank → above.get? name = none

/-- An object with nothing but texts among its marks, and without marks that are no array. -/
def tidied (object : Locals) : Locals :=
  match object.get? "$serialized" with
  | some (.array names) => object.insert "$serialized" (.array (names.filter fun name => name.text?.isSome))
  | some _ => object.filter (· ≠ "$serialized")
  | none => object

/-- A scope that holds a tidied object under the key, or nothing. -/
def tidiedUnder (key : String) (scope : Locals) : Locals :=
  match scope.get? key with
  | some (.object fields) => scope.insert key (.ofDict (tidied (.ofList fields)))
  | some _ => scope.filter (· ≠ key)
  | none => scope

def tidy (key : String) (scopes : Scopes) : Scopes where
  app := tidiedUnder key scopes.app
  request := tidiedUnder key scopes.request
  response := tidiedUnder key scopes.response

variable {key name : String} {scopes : Scopes} {call : Locals}

theorem mem_marks {object : Locals} : name ∈ marks object ↔ Marks object name := by
  unfold marks Marks
  change _ ↔ ∃ names, object.get? marksKey = _ ∧ _
  split
  next names found =>
    rw [List.mem_filterMap]
    constructor
    · rintro ⟨mark, member, text⟩
      cases mark with
      | text value => cases text; exact ⟨names, found, member⟩
      | _ => cases text
    · rintro ⟨others, found', member⟩
      rw [found] at found'
      cases found'
      exact ⟨.text name, member, rfl⟩
  next other =>
    constructor
    · intro member
      cases member
    · rintro ⟨names, found, -⟩
      exact absurd found (other names)

theorem held_of_object {scope : Locals} {fields : List (String × Json)} (holds : scope.get? key = some (.object fields)) :
    held key scope = .ofList fields := by
  rw [held, holds]
  rfl

theorem held_of_other {scope : Locals} (other : ∀ fields, scope.get? key ≠ some (.object fields)) :
    held key scope = .empty := by
  unfold held
  cases holds : scope.get? key with
  | none => rfl
  | some value =>
    cases value with
    | object fields => exact absurd holds (other fields)
    | _ => rfl

/-- What a layer counts for, whether or not there is an object. -/
def Layer.held (key : String) (scopes : Scopes) (call : Locals) : Layer → Locals
  | .app => Globals.held key scopes.app
  | .request => Globals.held key scopes.request
  | .response => Globals.held key scopes.response
  | .call => call

theorem Layer.held_of_scope {layer : Layer} {scope : Locals} (stands : layer.scope? scopes = some scope) :
    layer.held key scopes call = Globals.held key scope := by
  cases layer <;> cases stands <;> rfl

theorem Candidate.held {layer : Layer} {object : Locals} (candidate : Candidate key scopes call layer object) :
    layer.held key scopes call = object := by
  cases candidate with
  | scope stands holds => rw [Layer.held_of_scope stands, held_of_object holds]
  | call => rfl

/-- A layer has an object, or it counts for nothing. -/
theorem candidate_or_empty (key : String) (scopes : Scopes) (call : Locals) (layer : Layer) :
    Candidate key scopes call layer (layer.held key scopes call) ∨ layer.held key scopes call = .empty := by
  cases stands : layer.scope? scopes with
  | none =>
    cases layer with
    | call => exact .inl .call
    | _ => cases stands
  | some scope =>
    rw [Layer.held_of_scope stands]
    by_cases object : ∃ fields, scope.get? key = some (.object fields)
    · obtain ⟨fields, holds⟩ := object
      rw [held_of_object holds]
      exact .inl (.scope stands holds)
    · exact .inr (held_of_other (not_exists.mp object))

theorem exists_candidate_iff {layer : Layer} (fits : Locals → Prop) (proper : ¬ fits .empty) :
    (∃ object, Candidate key scopes call layer object ∧ fits object) ↔ fits (layer.held key scopes call) := by
  constructor
  · rintro ⟨object, candidate, holds⟩
    rwa [candidate.held]
  · intro holds
    rcases candidate_or_empty key scopes call layer with candidate | empty
    · exact ⟨_, candidate, holds⟩
    · exact absurd (empty ▸ holds) proper

theorem prevails_iff {value : Json} : Prevails key scopes call name value ↔
    ∃ layer : Layer, (layer.held key scopes call).get? name = some value ∧
      ∀ other : Layer, layer.rank < other.rank → (other.held key scopes call).get? name = none := by
  have above : ∀ other, (∀ object, Candidate key scopes call other object → object.get? name = none) ↔
      (other.held key scopes call).get? name = none := by
    intro other
    constructor
    · intro without
      rcases candidate_or_empty key scopes call other with candidate | empty
      · exact without _ candidate
      · rw [empty, Dict.get?_empty]
    · intro without object candidate
      rwa [← candidate.held]
  constructor
  · rintro ⟨layer, object, candidate, found, first⟩
    refine ⟨layer, candidate.held ▸ found, fun other higher => (above other).mp ?_⟩
    exact fun object candidate => first other object candidate higher
  · rintro ⟨layer, found, first⟩
    obtain ⟨object, candidate, found⟩ :=
      (exists_candidate_iff (fun object => object.get? name = some value) (by simp)).mpr found
    exact ⟨layer, object, candidate, found, fun other object candidate higher =>
      (above other).mpr (first other higher) object candidate⟩

theorem not_marks_empty : ¬ Marks .empty name := by
  rintro ⟨names, found, -⟩
  cases found

theorem mem_marked_iff : name ∈ marked key scopes ↔ ∃ scope ∈ scopes.toList, Marks (held key scope) name := by
  simp only [marked, candidates, List.mem_flatMap, List.mem_filterMap]
  constructor
  · rintro ⟨object, ⟨scope, member, holds⟩, marks⟩
    refine ⟨scope, member, mem_marks.mp ?_⟩
    rwa [held, holds]
  · rintro ⟨scope, member, marks⟩
    cases holds : (scope.get? key).bind Json.fields? with
    | none =>
      rw [held, holds] at marks
      exact absurd marks not_marks_empty
    | some object =>
      rw [held, holds] at marks
      exact ⟨object, ⟨scope, member, holds⟩, mem_marks.mpr marks⟩

theorem admits_iff : Admits key scopes call name ↔
    name ≠ marksKey ∧ (name ∈ marked key scopes ∨ name ∈ marks call ∨ name ∈ call.keys) := by
  have layers : (∃ layer object, Candidate key scopes call layer object ∧ Marks object name) ↔
      name ∈ marked key scopes ∨ name ∈ marks call := by
    simp only [exists_candidate_iff (Marks · name) not_marks_empty, mem_marked_iff, mem_marks, Scopes.toList, List.mem_cons,
      List.not_mem_nil, or_false, exists_eq_or_imp, exists_eq_left]
    constructor
    · rintro ⟨layer, marks⟩
      cases layer with
      | app => exact .inl (.inl marks)
      | request => exact .inl (.inr (.inl marks))
      | response => exact .inl (.inr (.inr marks))
      | call => exact .inr marks
    · rintro ((marks | marks | marks) | marks)
      · exact ⟨.app, marks⟩
      · exact ⟨.request, marks⟩
      · exact ⟨.response, marks⟩
      · exact ⟨.call, marks⟩
  constructor
  · rintro ⟨free, listed⟩
    rw [layers] at listed
    exact ⟨free, or_assoc.mp listed.symm⟩
  · rintro ⟨free, listed⟩
    refine ⟨free, ?_⟩
    rw [layers]
    exact (or_assoc.mpr listed).symm

theorem first_iff (found : Layer → Option Json) (value : Json) :
    (found .call).or ((found .response).or ((found .request).or (found .app))) = some value ↔
      ∃ layer, found layer = some value ∧ ∀ other, layer.rank < other.rank → found other = none := by
  constructor
  · intro first
    cases call : found .call with
    | some own =>
      refine ⟨.call, by simpa [call] using first, fun other higher => ?_⟩
      cases other <;> simp [Layer.rank] at higher
    | none =>
      cases response : found .response with
      | some own =>
        refine ⟨.response, by simpa [call, response] using first, fun other higher => ?_⟩
        cases other <;> simp [Layer.rank] at higher
        exact call
      | none =>
        cases request : found .request with
        | some own =>
          refine ⟨.request, by simpa [call, response, request] using first, fun other higher => ?_⟩
          cases other <;> simp [Layer.rank] at higher
          · exact response
          · exact call
        | none =>
          refine ⟨.app, by simpa [call, response, request] using first, fun other higher => ?_⟩
          cases other <;> simp [Layer.rank] at higher
          · exact request
          · exact response
          · exact call
  · rintro ⟨layer, here, above⟩
    cases layer with
    | call => simp [here]
    | response => simp [here, above .call (by decide)]
    | request => simp [here, above .call (by decide), above .response (by decide)]
    | app => simp [here, above .call (by decide), above .response (by decide), above .request (by decide)]

theorem get?_merge_iff {value : Json} : (merge key scopes call).get? name = some value ↔
    Admits key scopes call name ∧ Prevails key scopes call name value := by
  have chain : (call.get? name).or ((values key name scopes).foldl (fun found value => value.or found) none) =
      some value ↔ Prevails key scopes call name value := by
    rw [prevails_iff, ← first_iff fun layer => (layer.held key scopes call).get? name]
    simp only [values, Scopes.toList, List.map_cons, List.map_nil, List.foldl_cons, List.foldl_nil, Option.or_none, Layer.held]
  rw [get?_merge, admits_iff, ← chain]
  split
  next admitted => exact ⟨fun found => ⟨admitted, found⟩, And.right⟩
  next refused =>
    constructor
    · intro found
      cases found
    · intro both
      exact absurd both.1 refused

theorem exists_prevails_iff : (∃ value, Prevails key scopes call name value) ↔
    ∃ layer object, Candidate key scopes call layer object ∧ name ∈ object.keys := by
  constructor
  · rintro ⟨value, layer, object, candidate, found, -⟩
    exact ⟨layer, object, candidate, Dict.mem_keys_iff.mpr ⟨value, found⟩⟩
  · rintro ⟨layer, object, candidate, member⟩
    obtain ⟨value, here⟩ := Dict.mem_keys_iff.mp member
    rw [← candidate.held] at here
    let found (layer : Layer) := (layer.held key scopes call).get? name
    cases chain : (found .call).or ((found .response).or ((found .request).or (found .app))) with
    | some winner => exact ⟨winner, prevails_iff.mpr ((first_iff found winner).mp chain)⟩
    | none =>
      simp only [Option.or_eq_none_iff] at chain
      obtain ⟨call, response, request, app⟩ := chain
      have absent : found layer = none := by
        cases layer with
        | app => exact app
        | request => exact request
        | response => exact response
        | call => exact call
      cases here.symm.trans absent

theorem marks_tidied {object : Locals} : Marks (tidied object) name ↔ Marks object name := by
  unfold tidied
  split
  next names found =>
    have kept : .text name ∈ names.filter (fun name => name.text?.isSome) ↔ .text name ∈ names := by
      rw [List.mem_filter]
      exact and_iff_left rfl
    simp only [Marks, Dict.get?_insert, if_pos, Option.some.injEq, Json.array.injEq, exists_eq_left', found, kept]
  next other noArray found =>
    constructor
    · rintro ⟨names, held, -⟩
      simp at held
    · rintro ⟨names, held, -⟩
      rw [found] at held
      cases held
      exact absurd rfl (noArray names)
  next => exact Iff.rfl

theorem get?_tidied {object : Locals} (other : name ≠ "$serialized") : (tidied object).get? name = object.get? name := by
  unfold tidied
  split
  · rw [Dict.get?_insert, if_neg other]
  · rw [Dict.get?_filter, if_pos (by simpa using other)]
  · rfl

theorem held_tidiedUnder (key : String) (scope : Locals) : held key (tidiedUnder key scope) = tidied (held key scope) := by
  have empty : tidied .empty = .empty := rfl
  unfold tidiedUnder
  split
  next fields holds =>
    rw [held_of_object holds]
    have tidy : (scope.insert key (.ofDict (tidied (.ofList fields)))).get? key =
        some (.object (tidied (.ofList fields)).entries) := by
      rw [Dict.get?_insert, if_pos rfl, Json.ofDict]
    rw [held_of_object tidy, Dict.ofList_entries]
  next other noObject holds =>
    have object : ∀ fields, scope.get? key ≠ some (.object fields) := by
      rw [holds]
      simpa using noObject
    rw [held_of_other object, empty]
    exact held_of_other (by simp)
  next holds =>
    rw [held_of_other (by simp [holds]), empty]

theorem held_tidy (layer : Layer) : layer.held key (tidy key scopes) (tidied call) = tidied (layer.held key scopes call) := by
  cases layer with
  | app => exact held_tidiedUnder key scopes.app
  | request => exact held_tidiedUnder key scopes.request
  | response => exact held_tidiedUnder key scopes.response
  | call => rfl

theorem admits_tidy : Admits key (tidy key scopes) (tidied call) name ↔ Admits key scopes call name := by
  have marked : (∃ layer object, Candidate key (tidy key scopes) (tidied call) layer object ∧ Marks object name) ↔
      ∃ layer object, Candidate key scopes call layer object ∧ Marks object name := by
    simp only [exists_candidate_iff (Marks · name) not_marks_empty, held_tidy, marks_tidied]
  have brought (free : name ≠ "$serialized") : name ∈ (tidied call).keys ↔ name ∈ call.keys := by
    rw [Dict.mem_keys_iff, Dict.mem_keys_iff, get?_tidied free]
  constructor
  · rintro ⟨free, listed⟩
    exact ⟨free, listed.imp (brought free).mp marked.mp⟩
  · rintro ⟨free, listed⟩
    exact ⟨free, listed.imp (brought free).mpr marked.mpr⟩

theorem prevails_tidy {value : Json} (free : name ≠ "$serialized") :
    Prevails key (tidy key scopes) (tidied call) name value ↔ Prevails key scopes call name value := by
  simp only [prevails_iff, held_tidy, get?_tidied free]

/-- A merge has the names that the call brings or that some object marks, if any object has them, and never the name of
the marks. Of each it has the value of the most specific object. Anything else that stands in the place of an object, of
marks or of a mark could be taken away before. -/
theorem merge_policy (key : String) (scopes : Scopes) (call : Locals) :
    (∀ name value, (merge key scopes call).get? name = some value ↔
      Admits key scopes call name ∧ Prevails key scopes call name value) ∧
    (∀ name, name ∈ (merge key scopes call).keys ↔
      Admits key scopes call name ∧ ∃ layer object, Candidate key scopes call layer object ∧ name ∈ object.keys) ∧
    merge key (tidy key scopes) (tidied call) = merge key scopes call := by
  refine ⟨fun name value => get?_merge_iff, ?_, ?_⟩
  · intro name
    rw [Dict.mem_keys_iff]
    simp only [get?_merge_iff, exists_and_left, exists_prevails_iff]
  · refine Dict.ext_get? fun name => Option.ext fun value => ?_
    rw [get?_merge_iff, get?_merge_iff, admits_tidy]
    constructor
    · rintro ⟨admitted, prevails⟩
      exact ⟨admitted, (prevails_tidy admitted.free).mp prevails⟩
    · rintro ⟨admitted, prevails⟩
      exact ⟨admitted, (prevails_tidy admitted.free).mpr prevails⟩

end ComponentViews.Render.Globals
