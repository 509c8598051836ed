import ComponentViews.Json.Reader

/-! Decoding documents into records. A record is written as an object, whose
unknown fields are passed over and whose known fields occur at most once, or as
an array of its fields in their order, from which fields at the end may be
missing. -/

namespace ComponentViews.Json.Document

def text? : Document → Option String
  | .text value => value
  | _ => none

def bool? : Document → Option Bool
  | .bool value => some value
  | _ => none

def list? {α : Type} (item? : Document → Option α) : Document → Option (List α)
  | .array items => items.mapM item?
  | _ => none

def texts? : Document → Option (List String) := list? text?

/-- A field as a key and a decoded value. -/
def keyed? {α : Type} (item? : Document → Option α) (field : Option String × Document) : Option (String × α) := do
  let key ← field.1
  let value ← item? field.2
  pure (key, value)

/-- A dictionary; of repeated keys the last one counts. -/
def dict? {α : Type} (item? : Document → Option α) : Document → Option (Dict α)
  | .object fields => (fields.mapM (keyed? item?)).map Dict.ofList
  | _ => none

/-- Null stands for nothing. -/
def optional? {α : Type} (item? : Document → Option α) : Document → Option (Option α)
  | .null => some none
  | document => (item? document).map some

/-- One of some names, as a text or as the only key of an object that holds null. -/
def choice? {α : Type} (names : List (String × α)) : Document → Option α
  | .text (some name) => names.lookup name
  | .object [(some name, .null)] => names.lookup name
  | _ => none

end Document

/-- The known fields of a record, each at most once. -/
structure Record where
  fields : List (String × Document)

namespace Record
variable {α : Type}

/-- The record with the given field names, in their order, that a document writes. -/
def ofDocument? (names : List String) : Document → Option Record
  | .object fields => do
    let fields ← fields.mapM (Document.keyed? some)
    let known := fields.filter fun field => names.contains field.1
    if (known.map Prod.fst).Nodup then some { fields := known } else none
  | .array items => if items.length ≤ names.length then some { fields := names.zip items } else none
  | _ => none

/-- A field that has to be there. -/
def required? (record : Record) (name : String) (item? : Document → Option α) : Option α :=
  (record.fields.lookup name).bind item?

/-- A field that may be missing. -/
def default? (record : Record) (name : String) (item? : Document → Option α) (default : α) : Option α :=
  match record.fields.lookup name with
  | some document => item? document
  | none => some default

end Record
end ComponentViews.Json
