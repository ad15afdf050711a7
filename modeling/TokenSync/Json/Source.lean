import TokenSync.Json.Document
import TokenSync.Json.Mismatch

/-!
# Reading typed data from documents

A source is something a document can be read from: the text of a document, or a value that was read
before. A reader looks at one layer at a time, so both are read by the same rules. The problem that
stands first in the document ends the reading. In a value the entries stand in the order of their
keys and no key is repeated; a text keeps the order and the repetitions it has.

The rules are those that `serde` derives for a structure, read by `serde_json` 1.0.
-/
namespace TokenSync

namespace Json

/-- One layer of a document: what stands at a place, and what lies below. A key that is no text is
missing. -/
inductive Layer (α : Type) where
  | null
  | bool (value : Bool)
  | number (value : Number)
  | string (value : String)
  | array (items : List α)
  | object (entries : List (Option String × α))

/-- What a message tells of a layer. -/
def Layer.found : Layer α → Found
  | .null => .null
  | .bool value => .bool value
  | .number value => .number value
  | .string value => .string value
  | .array _ => .sequence
  | .object _ => .map

/-- Something documents are read from. -/
class Source (α : Type) where
  /-- What stands at a place. -/
  layer : α → Except Fault (Layer α)
  /-- Passes over a part that nobody asks for. -/
  ignore : α → Except Fault Unit
  /-- The value of a part in which arrays and objects are nested at most so deep. -/
  value : Nat → α → Except Fault Json
  /-- The fault of an array with more items than a structure has fields. -/
  surplus : Nat → Fault

/-! ## Values as sources -/

/-- One layer of a value. -/
def layer : Json → Layer Json
  | .null => .null
  | .bool value => .bool value
  | .number value => .number value
  | .string value => .string value
  | .array items => .array items
  | .object entries => .object (entries.map fun (key, value) => (some key, value))

/-- A value has been read already: nothing in it is malformed. This is `serde_json::from_value`,
which reports an array that is too long by its length. -/
instance : Source Json where
  layer value := .ok value.layer
  ignore _ := .ok ()
  value _ value := .ok value
  surplus length := .mismatch (.tooLong length)

/-! ## Texts as sources -/

namespace Node

/-- One layer of a text. -/
def layer : Node → Except Fault (Layer Node)
  | .null => .ok .null
  | .bool value => .ok (.bool value)
  | .number (some value) => .ok (.number value)
  | .string (some value) => .ok (.string value)
  | .array items => .ok (.array items)
  | .object entries => .ok (.object entries)
  | .number none | .string none | .broken => .error .malformed

mutual
/-- Whether the text of a value is JSON to its end. -/
def isWhole : Node → Bool
  | .array items => areWhole items
  | .object entries => entriesAreWhole entries
  | .broken => false
  | .null | .bool _ | .number _ | .string _ => true
termination_by structural node => node

/-- Whether all items are JSON to their end. -/
def areWhole : List Node → Bool
  | [] => true
  | item :: rest => item.isWhole && areWhole rest
termination_by structural items => items

/-- Whether the values of all entries are JSON to their end. -/
def entriesAreWhole : List (Option String × Node) → Bool
  | [] => true
  | (_, value) :: rest => value.isWhole && entriesAreWhole rest
termination_by structural entries => entries
end

/-- The text of a part that nobody asks for need only be JSON; neither the nesting nor the range of
its numbers matters, as `serde_json` passes over an `IgnoredAny`. -/
def ignore (node : Node) : Except Fault Unit :=
  if node.isWhole then .ok () else .error .malformed

mutual
/-- The value of a text, as `serde_json` reads a `Value`: of repeated keys the last one counts.
Arrays and objects may be nested so deep and no deeper. -/
def toJson (room : Nat) : Node → Except Fault Json
  | .null => .ok .null
  | .bool value => .ok (.bool value)
  | .number (some value) => .ok (.number value)
  | .string (some value) => .ok (.string value)
  | .array items =>
    if room = 0 then .error .malformed else (itemsToJson (room - 1) items).map .array
  | .object entries =>
    if room = 0 then .error .malformed
    else (entriesToJson (room - 1) entries).map (.object ∘ Keyed.ofList)
  | .number none | .string none | .broken => .error .malformed
termination_by structural node => node

/-- The values of items. -/
def itemsToJson (room : Nat) : List Node → Except Fault (List Json)
  | [] => .ok []
  | item :: rest => do
    let value ← item.toJson room
    let values ← itemsToJson room rest
    return value :: values
termination_by structural items => items

/-- The values of entries. -/
def entriesToJson (room : Nat) : List (Option String × Node) → Except Fault (List (String × Json))
  | [] => .ok []
  | (none, _) :: _ => .error .malformed
  | (some key, node) :: rest => do
    let value ← node.toJson room
    let values ← entriesToJson room rest
    return (key, value) :: values
termination_by structural entries => entries
end

end Node

/-- A text is read as `serde_json::from_str` does: what is malformed is a fault where it is met. -/
instance : Source Node where
  layer := Node.layer
  ignore := Node.ignore
  value := Node.toJson
  surplus _ := .malformed

/-- How deep arrays and objects may be nested in a document: the 128th level is what `serde_json`
refuses. -/
def depthLimit : Nat := 127

/-- Reads a whole text; something behind its value is a fault of its own. -/
def Document.read (read : Node → Except Fault τ) (document : Document) : Except Fault τ := do
  let result ← read document.root
  if document.surplus then .error .malformed else .ok result

/-- The value of a text. -/
def ofText (text : String) : Except Fault Json :=
  (Document.ofText text).read (Node.toJson depthLimit)

/-! ## Plain data -/

section
variable {α : Type} [Source α]

/-- The fault of finding something else. -/
def unexpected (found : Layer α) (wanted : String) : Except Fault τ :=
  .error (.mismatch (.wrongType found.found wanted))

/-- Reads a text. -/
def readText (a : α) : Except Fault String := do
  match ← Source.layer a with
  | .string value => .ok value
  | other => unexpected other "a string"

/-- Reads a truth value. -/
def readBool (a : α) : Except Fault Bool := do
  match ← Source.layer a with
  | .bool value => .ok value
  | other => unexpected other "a boolean"

/-- Reads a natural number of so many bits. -/
def readNat (bits : Nat) (a : α) : Except Fault Nat := do
  match ← Source.layer a with
  | .number (.int value) =>
    if 0 ≤ value ∧ value < Nat.pow 2 bits then .ok value.toNat
    else .error (.mismatch (.outOfRange value ("u" ++ toString bits)))
  | other => unexpected other ("u" ++ toString bits)

/-- Reads something that may be null. -/
def readOptional (read : α → Except Fault τ) (a : α) : Except Fault (Option τ) := do
  match ← Source.layer a with
  | .null => .ok none
  | _ => some <$> read a

/-- Reads an array item by item. -/
def readList (read : α → Except Fault τ) (a : α) : Except Fault (List τ) := do
  match ← Source.layer a with
  | .array items => items.mapM read
  | other => unexpected other "a sequence"

/-- Reads any value nested at most so deep. -/
def readValue (room : Nat) (a : α) : Except Fault Json := Source.value room a

/-! ## Structures -/

/-- A field of a structure: its name, how it is read, and what it holds when it is left out; a
field without such a value is required. -/
structure FieldSpec (α τ : Type) where
  name : String
  read : α → Except Fault τ
  fallback : Option τ

/-- A field without its type: what the search for the first problem needs. -/
structure Check (α : Type) where
  name : String
  run : α → Except Fault Unit

/-- The check of a field is its reading. -/
def FieldSpec.check (field : FieldSpec α τ) : Check α :=
  ⟨field.name, fun a => (field.read a).map fun _ => ()⟩

/-- The parts of a document found for the fields of a structure, each of which can be read, and
what is wrong when a required field is not among them. -/
structure Given (α : Type) where
  parts : List (String × α)
  absent : String → Mismatch

/-- The content of a field. -/
def Given.get (given : Given α) (field : FieldSpec α τ) : Except Fault τ :=
  match given.parts.lookup field.name, field.fallback with
  | some a, _ => field.read a
  | none, some value => .ok value
  | none, none => .error (.mismatch (given.absent field.name))

/-- Walks over the entries of an object. A known field is read, and may be there once; for every
other entry the document's reader has a rule. The result has the parts of the known fields and what
that rule made of the others. -/
def sortEntries (checks : List (Check α)) (other : α → Except Fault β) (seen : List String) :
    List (Option String × α) → Except Fault (List (String × α) × List (String × β))
  | [] => .ok ([], [])
  | (none, _) :: _ => .error .malformed
  | (some key, a) :: rest =>
    match checks.find? (·.name == key) with
    | some check =>
      if seen.contains key then .error (.mismatch (.duplicateField key))
      else do
        check.run a
        let (known, others) ← sortEntries checks other (key :: seen) rest
        return ((key, a) :: known, others)
    | none => do
      let b ← other a
      let (known, others) ← sortEntries checks other seen rest
      return (known, (key, b) :: others)

/-- Walks over the items of an array, which are the fields in order; trailing ones may be missing.
The number is the length of the whole array. -/
def alignItems (length : Nat) : List (Check α) → List α → Except Fault (List (String × α))
  | _, [] => .ok []
  | [], _ :: _ => .error (Source.surplus α length)
  | check :: checks, a :: rest => do
    check.run a
    let parts ← alignItems length checks rest
    return (check.name, a) :: parts

/-- The parts of a structure that is given as an object or as an array of its fields. Entries that
are no fields are passed over. -/
def readStructure (name : String) (checks : List (Check α)) (a : α) : Except Fault (Given α) := do
  match ← Source.layer a with
  | .object entries =>
    let (parts, _) ← sortEntries checks Source.ignore [] entries
    return ⟨parts, .missingField⟩
  | .array items =>
    let parts ← alignItems items.length checks items
    return ⟨parts, fun _ => .tooShort items.length name checks.length⟩
  | other => unexpected other ("struct " ++ name)

/-- The parts of a structure that must be given as an object, and the values of the entries that
are no fields. -/
def readOpenStructure (name : String) (checks : List (Check α)) (room : Nat) (a : α) :
    Except Fault (Given α × List (String × Json)) := do
  match ← Source.layer a with
  | .object entries =>
    let (parts, others) ← sortEntries checks (readValue room) [] entries
    return (⟨parts, .missingField⟩, others)
  | other => unexpected other ("struct " ++ name)

end

/-! ## Variants -/

/-- Reads one of two named variants, as `serde` derives it for an enumeration without data: its
name, or an object with the name as its one key and nothing under it. -/
def readVariant (first second : String × τ) (value : Json) : Except Fault τ :=
  let named (name : String) : Except Fault τ :=
    if name = first.1 then .ok first.2
    else if name = second.1 then .ok second.2
    else .error (.mismatch (.unknownVariant name first.1 second.1))
  match value with
  | .string name => named name
  | .object [(name, content)] => do
    let variant ← named name
    match content with
    | .null => .ok variant
    | other => unexpected other.layer "unit"
  | .object _ => .error (.mismatch .notOneKey)
  | other => unexpected other.layer "string or map"

end Json

end TokenSync
