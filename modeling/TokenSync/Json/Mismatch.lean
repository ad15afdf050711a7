import TokenSync.Json.Printer
import TokenSync.Text.Quoted

/-!
# What can be wrong with a document

A document that is JSON may still not be what a reader asked for. A mismatch says in which way, and
has one wording. A fault is a mismatch, or a text that is no JSON document at all.
-/
namespace TokenSync

/-- What a reader came upon, as far as a message tells. -/
inductive Found where
  | null
  | bool (value : Bool)
  | number (value : Number)
  | string (value : String)
  | sequence
  | map
deriving DecidableEq

/-- Why JSON does not have the shape a reader asked for. -/
inductive Mismatch where
  | missingField (name : String)
  | duplicateField (name : String)
  /-- A variant's name that is none of the two allowed ones. -/
  | unknownVariant (name first second : String)
  | wrongType (found : Found) (wanted : String)
  | outOfRange (value : Int) (wanted : String)
  /-- An array that ends before the field at this position of a structure. -/
  | tooShort (length : Nat) (name : String) (fields : Nat)
  | tooLong (length : Nat)
  /-- A variant given as an object with not exactly one key. -/
  | notOneKey
deriving DecidableEq

/-- What ends the reading of a document. -/
inductive Fault where
  /-- No JSON, or not within the limits of depth and number range. -/
  | malformed
  | mismatch (cause : Mismatch)
deriving DecidableEq

/-- A name in a message. -/
def backquoted (name : String) : String := "\x60" ++ name ++ "\x60"

/-- What was found, in words. -/
def Found.message : Found → String
  | .null => "null"
  | .bool value => "boolean " ++ backquoted (if value then "true" else "false")
  | .number (.int value) => "integer " ++ backquoted (toString value)
  | .number (.float value) => "floating point " ++ backquoted (Number.float value).text
  | .string value => "string " ++ Text.quote value
  | .sequence => "sequence"
  | .map => "map"

/-- The wording of a mismatch. -/
def Mismatch.message : Mismatch → String
  | .missingField name => "missing field " ++ backquoted name
  | .duplicateField name => "duplicate field " ++ backquoted name
  | .unknownVariant name first second =>
    "unknown variant " ++ backquoted name ++ ", expected " ++ backquoted first ++ " or " ++
      backquoted second
  | .wrongType found wanted => "invalid type: " ++ found.message ++ ", expected " ++ wanted
  | .outOfRange value wanted =>
    "invalid value: integer " ++ backquoted (toString value) ++ ", expected " ++ wanted
  | .tooShort length name fields =>
    "invalid length " ++ toString length ++ ", expected struct " ++ name ++ " with " ++
      toString fields ++ (if fields = 1 then " element" else " elements")
  | .tooLong length =>
    "invalid length " ++ toString length ++ ", expected fewer elements in array"
  | .notOneKey => "invalid value: map, expected map with a single key"

end TokenSync
