import TokenSync.Yaml.Node
import TokenSync.Yaml.Plain

/-!
# Reading typed data from YAML

What is read decides what a scalar means: where a text is asked for every scalar is one, and only a
plain scalar can be anything else. An empty value is an empty mapping or list where one of these is
asked for. Aliases are followed, at most a hundred times for every part of the document, and nothing
is nested deeper than 128 levels. Whatever does not fit ends the reading.

The rules are those of `serde_yaml::from_str` 0.9.33: a structure is a mapping, and the limit on
aliases is its repetition limit.
-/
namespace TokenSync.Yaml

open Node

/-- A reading of a document, which counts the aliases it has followed. -/
abbrev Reading (τ : Type) := ReaderT Document (StateT Nat Option) τ

/-- The end of a reading that does not fit. -/
def refuse : Reading τ := fun _ _ => none

/-- The result of a reading of a whole document. -/
def Document.read (document : Document) (reading : Reading τ) : Option τ :=
  ((reading document).run 0).map Prod.fst

/-- The node itself, or the one an alias refers to. -/
def follow : Numbered → Reading Numbered
  | .alias number => fun document followed =>
    if document.weight * 100 < followed + 1 then none
    else (document.target? number).map (·, followed + 1)
  | node => pure node

/-! ## Tags -/

/-- The octets of a tag of the core schema. -/
def coreTag (name : String) : Octets := octetsOf ("tag:yaml.org,2002:" ++ name).toList

/-- The name of a local tag, which starts with an exclamation mark; a lone mark names itself. -/
def localName? : Option Octets → Option String
  | some (first :: rest) =>
    if first = '!'.toNat.toUInt8 then
      String.fromUTF8? ⟨(if rest.isEmpty then [first] else rest).toArray⟩
    else none
  | _ => none

/-- Whether a tag starts with an exclamation mark. -/
def isLocal (tag : Octets) : Bool := tag.head? == some '!'.toNat.toUInt8

/-! ## Scalars -/

/-- Reads any scalar as a text. -/
def readText (node : Numbered) : Reading String := do
  match ← follow node with
  | .scalar _ text _ => return String.ofList text
  | _ => refuse

/-- Whether a scalar may be something other than a text: a plain one may, and a literal block whose
tag says so. -/
def mayBe (tag : Octets) (p : Properties) (style : Style) : Bool :=
  style == .plain || (style == .literal && p.tag == some tag)

/-- Reads a truth value. -/
def readBool (node : Numbered) : Reading Bool := do
  match ← follow node with
  | .scalar p text style =>
    match if mayBe (coreTag "bool") p style then Plain.bool? text else none with
    | some value => return value
    | none => refuse
  | _ => refuse

/-- Reads a natural number of so many bits. -/
def readNat (bits : Nat) (node : Numbered) : Reading Nat := do
  match ← follow node with
  | .scalar p text style =>
    match if mayBe (coreTag "int") p style then Plain.natural? text else none with
    | some n => if n < Nat.pow 2 bits then return n else refuse
    | none => refuse
  | _ => refuse

/-- Whether a scalar stands for nothing where something may be missing; one that is tagged as
nothing has to spell it. -/
def isMissing? (p : Properties) (text : List Char) (style : Style) : Option Bool :=
  if style ≠ .plain then some false
  else
    match p.tag with
    | some tag =>
      if tag = coreTag "null" then (if Plain.isNull text then some true else none)
      else some false
    | none => some (text.isEmpty || Plain.isNull text)

/-- Reads something that may be missing. -/
def readOptional (read : Numbered → Reading τ) (node : Numbered) : Reading (Option τ) := do
  let node ← follow node
  match node with
  | .scalar p text style =>
    match isMissing? p text style with
    | some true => return none
    | some false => some <$> read node
    | none => refuse
  | _ => some <$> read node

/-- Whether a scalar is empty and plain. -/
def isEmptyPlain (text : List Char) (style : Style) : Bool :=
  text.isEmpty && style == .plain

/-- The name of a variant: the text of a scalar, or the local tag of a plain scalar that stands for
nothing. -/
def variantName? (p : Properties) (text : List Char) (style : Style) : Option String :=
  match localName? p.tag with
  | some name => if style == .plain && (text.isEmpty || Plain.isNull text) then some name else none
  | none => some (String.ofList text)

/-- Reads one of some named variants. -/
def readVariant (ofName? : String → Option τ) (node : Numbered) : Reading τ := do
  match ← follow node with
  | .scalar p text style =>
    match (variantName? p text style).bind ofName? with
    | some value => return value
    | none => refuse
  | _ => refuse

/-! ## Collections -/

/-- The items of a list. -/
def readItems (node : Numbered) : Reading (List Numbered) := do
  match ← follow node with
  | .sequence _ items => return items
  | .scalar _ text style => if isEmptyPlain text style then return [] else refuse
  | _ => refuse

/-- Reads a list item by item. -/
def readList (read : Numbered → Reading τ) (node : Numbered) : Reading (List τ) := do
  (← readItems node).mapM read

/-- A field of a structure: its name, how it is read, and what it holds when it is left out; a
field without such a value is required. -/
structure FieldSpec (τ : Type) where
  name : String
  read : Numbered → Reading τ
  fallback : Option τ

/-- The parts of a mapping that are fields. A field may be there once, and everything else is passed
over. -/
def selectFields (names : List String) (seen : List String) :
    List (Numbered × Numbered) → Reading (List (String × Numbered))
  | [] => return []
  | (key, value) :: rest => do
    let name ← readText key
    if names.contains name then
      if seen.contains name then refuse
      else
        let parts ← selectFields names (name :: seen) rest
        return (name, value) :: parts
    else selectFields names seen rest

/-- The parts of a structure, which is a mapping or empty. -/
def readStructure (names : List String) (node : Numbered) : Reading (List (String × Numbered)) := do
  match ← follow node with
  | .mapping _ entries => selectFields names [] entries
  | .scalar _ text style => if isEmptyPlain text style then return [] else refuse
  | _ => refuse

/-- The content of a field. -/
def FieldSpec.get (field : FieldSpec τ) (parts : List (String × Numbered)) : Reading τ :=
  match parts.lookup field.name, field.fallback with
  | some node, _ => field.read node
  | none, some value => return value
  | none, none => refuse

/-! ## Values of any kind -/

/-- The value of a scalar. A tag of the core schema forces a kind, any other tag makes a text, and
local tags are refused. -/
def scalarValue? (p : Properties) (text : List Char) (style : Style) : Option Json :=
  let string : Json := .string (String.ofList text)
  match p.tag with
  | none => if style == .plain then Plain.value? text else some string
  | some tag =>
    if (localName? (some tag)).isSome then none
    else if tag = coreTag "bool" then (Plain.bool? text).map .bool
    else if tag = coreTag "int" then (Plain.integer? text).bind Plain.Integer.toJson?
    else if tag = coreTag "float" then (Plain.real? text).map Plain.Real.toJson
    else if tag = coreTag "null" then (if Plain.isNull text then some .null else none)
    else if isLocal tag && style == .plain then Plain.value? text
    else some string

/-- The value of a node, given how the parts of a collection are read; without that a collection
would be nested too deep. -/
def valueWith (inner : Option (Numbered → Reading Json)) (node : Numbered) : Reading Json := do
  match ← follow node, inner with
  | .scalar p text style, _ =>
    match scalarValue? p text style with
    | some value => return value
    | none => refuse
  | .sequence p items, some read =>
    if (localName? p.tag).isSome then refuse else .array <$> items.mapM read
  | .mapping p entries, some read =>
    if (localName? p.tag).isSome then refuse
    else
      let pairs ← entries.mapM fun (key, value) => do
        let name ← readText key
        return (name, ← read value)
      return .object (Keyed.ofList pairs)
  | _, _ => refuse

/-- Reads any value in which collections are nested at most so deep. -/
def readValue : Nat → Numbered → Reading Json
  | 0 => valueWith none
  | room + 1 => valueWith (some (readValue room))

/-- How deep collections may be nested in a document. -/
def depthLimit : Nat := 128

end TokenSync.Yaml
