import ComponentViews.Dict
import ComponentViews.Decimal.Binary64

/-! JSON values and JSON documents. A document is what a text spells out: the
fields of its objects stand as written, repeated ones too, and a literal may
stand for nothing, as a number out of range or half a surrogate pair does. A
value has all its literals, and of equal keys the last field, in key order. -/

namespace ComponentViews

namespace Json

inductive Number where
  | integer (value : Int)
  | double (negative : Bool) (magnitude : Decimal.Binary64)
  deriving DecidableEq, Repr

end Json

inductive Json where
  | null
  | bool (value : Bool)
  | number (value : Json.Number)
  | text (value : String)
  | array (items : List Json)
  | object (fields : List (String × Json))

namespace Json

instance : Inhabited Json := ⟨.null⟩

inductive Document where
  | null
  | bool (value : Bool)
  | number (value : Option Number)
  | text (value : Option String)
  | array (items : List Document)
  | object (fields : List (Option String × Document))

/-- How deep a text may nest arrays and objects. -/
def greatestDepth : Nat := 127

mutual

/-- The document that spells out a value. -/
def toDocument : Json → Document
  | .null => .null
  | .bool value => .bool value
  | .number value => .number (some value)
  | .text value => .text (some value)
  | .array items => .array (itemsToDocument items)
  | .object fields => .object (fieldsToDocument fields)

def itemsToDocument : List Json → List Document
  | [] => []
  | item :: rest => item.toDocument :: itemsToDocument rest

def fieldsToDocument : List (String × Json) → List (Option String × Document)
  | [] => []
  | (key, value) :: rest => (some key, value.toDocument) :: fieldsToDocument rest

end

mutual

/-- The value of a document that nests at most `depth` arrays and objects. -/
def Document.value? (depth : Nat) : Document → Option Json
  | .null => some .null
  | .bool value => some (.bool value)
  | .number value => value.map .number
  | .text value => value.map .text
  | .array items =>
    match depth with
    | 0 => none
    | depth + 1 => (itemsValue? depth items).map .array
  | .object fields =>
    match depth with
    | 0 => none
    | depth + 1 => (fieldsValue? depth fields).map fun fields => .object (Dict.ofList fields).entries

def itemsValue? (depth : Nat) : List Document → Option (List Json)
  | [] => some []
  | item :: rest => do
    let value ← item.value? depth
    let values ← itemsValue? depth rest
    pure (value :: values)

def fieldsValue? (depth : Nat) : List (Option String × Document) → Option (List (String × Json))
  | [] => some []
  | (key, item) :: rest => do
    let key ← key
    let value ← item.value? depth
    let values ← fieldsValue? depth rest
    pure ((key, value) :: values)

end

mutual

/-- The value with the fields of its objects in key order; of equal keys the last one counts. -/
def normalize : Json → Json
  | .array items => .array (normalizeItems items)
  | .object fields => .object (Dict.ofList (normalizeFields fields)).entries
  | value => value

def normalizeItems : List Json → List Json
  | [] => []
  | item :: rest => item.normalize :: normalizeItems rest

def normalizeFields : List (String × Json) → List (String × Json)
  | [] => []
  | (key, value) :: rest => (key, value.normalize) :: normalizeFields rest

end

/-- The fields of an object as a dictionary. -/
def fields? : Json → Option (Dict Json)
  | .object fields => some (Dict.ofList fields)
  | _ => none

def text? : Json → Option String
  | .text value => some value
  | _ => none

def ofDict (dict : Dict Json) : Json := .object dict.entries

def ofTexts (texts : List String) : Json := .array (texts.map .text)

def ofTextDict (dict : Dict String) : Json := ofDict (dict.map .text)

/-- A text, or null where there is none. -/
def ofText? : Option String → Json
  | some value => .text value
  | none => .null

def ofFlag? : Option Bool → Json
  | some value => .bool value
  | none => .null

end Json
end ComponentViews
