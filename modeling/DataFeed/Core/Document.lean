import DataFeed.Core.Json
import Mathlib.Data.String.Basic

/-! # Documents whose accessors have preconditions

The parser's accessors do not check what they are applied to: outside its precondition an
accessor aborts the process. A lookup therefore ends in one of three ways: it returns, it
throws, or it takes the process down. The lookups that this program has of its own check a
value before they apply an accessor to it, so they throw where the accessor would abort
(`requireJsonString_eq`, `findJsonString_eq`).
-/

namespace DataFeed.Core

/-- A parsed document. -/
inductive Document where
  | null
  | boolean (value : Bool)
  /-- A number, with its value if it is an unsigned one of 32 bits. -/
  | number (uint : Option UInt32)
  | string (text : String)
  | array (elements : List Document)
  | object (members : List (String × Document))

/-- How a lookup ends that does not return. -/
inductive Fault where
  /-- An accessor was applied outside its precondition. -/
  | aborted
  /-- Throws `venue::UnknownSymbolError`. -/
  | unknownSymbol (what : String)
  /-- Throws another exception. -/
  | thrown (what : String)
  deriving DecidableEq, Repr

abbrev Lookup := Except Fault

/-- What is read of a text that ends at its first zero. -/
def cString (text : String) : String := .ofList (text.toList.takeWhile fun char => char ≠ '\x00')

/-- Two steps end otherwise than by a fault if both do. -/
theorem bind_ne_error {Result Other : Type} {fault : Fault} {first : Lookup Result}
    {next : Result → Lookup Other} : first.bind next ≠ .error fault ↔
      first ≠ .error fault ∧ ∀ result, first = .ok result → next result ≠ .error fault := by
  cases first with
  | ok result => simp only [Except.bind, ne_eq, reduceCtorEq, not_false_eq_true, Except.ok.injEq,
      forall_eq', true_and]
  | error fault => simp only [Except.bind, ne_eq, Except.error.injEq, reduceCtorEq,
      IsEmpty.forall_iff, implies_true, and_true]

/-- What is made of a result does not change how a lookup ends. -/
theorem map_ne_error {Result Other : Type} {fault : Fault} {first : Lookup Result}
    {change : Result → Other} : first.map change ≠ .error fault ↔ first ≠ .error fault := by
  cases first with
  | ok result => simp only [Except.map, ne_eq, reduceCtorEq, not_false_eq_true]
  | error fault => simp only [Except.map, ne_eq, Except.error.injEq]

namespace Document

variable (value : Document)

/-- The first member of an object with a name. -/
def member (name : String) : Option Document :=
  match value with
  | .object members => (members.find? fun entry => entry.1 = name).map Prod.snd
  | .null | .boolean _ | .number _ | .string _ | .array _ => none

/-- The value is an object. -/
def isObject : Bool :=
  match value with
  | .object _ => true
  | .null | .boolean _ | .number _ | .string _ | .array _ => false

/-- `operator[]`, of an object that has the member. -/
def index (name : String) : Lookup Document :=
  match value.member name with
  | some found => .ok found
  | none => .error .aborted

/-- `HasMember`, of an object. -/
def hasMember (name : String) : Lookup Bool :=
  if value.isObject then .ok (value.member name).isSome else .error .aborted

/-- From `MemberBegin` to `MemberEnd`, of an object. -/
def members : Lookup (List (String × Document)) :=
  match value with
  | .object members => .ok members
  | .null | .boolean _ | .number _ | .string _ | .array _ => .error .aborted

/-- `Empty`, `Size` and the elements, of an array. -/
def elements : Lookup (List Document) :=
  match value with
  | .array elements => .ok elements
  | .null | .boolean _ | .number _ | .string _ | .object _ => .error .aborted

/-- `GetUint`, of an unsigned number of 32 bits. -/
def getUint : Lookup UInt32 :=
  match value with
  | .number (some value) => .ok value
  | .null | .boolean _ | .number none | .string _ | .array _ | .object _ => .error .aborted

/-- `GetString`, of a string. -/
def getString : Lookup String :=
  match value with
  | .string text => .ok (cString text)
  | .null | .boolean _ | .number _ | .array _ | .object _ => .error .aborted

/-- `GetString` with `GetStringLength`, of a string. -/
def getText : Lookup String :=
  match value with
  | .string text => .ok text
  | .null | .boolean _ | .number _ | .array _ | .object _ => .error .aborted

/-- `GetBool`, of a boolean. -/
def getBool : Lookup Bool :=
  match value with
  | .boolean value => .ok value
  | .null | .number _ | .string _ | .array _ | .object _ => .error .aborted

/-- `FindMember`, of an object, and whether that is its `MemberEnd`. -/
def findMember (name : String) : Lookup (Option Document) :=
  if value.isObject then .ok (value.member name) else .error .aborted

/-- The value is a string. -/
def isString : Bool :=
  match value with
  | .string _ => true
  | .null | .boolean _ | .number _ | .array _ | .object _ => false

/-- The value is a boolean. -/
def isBool : Bool :=
  match value with
  | .boolean _ => true
  | .null | .number _ | .string _ | .array _ | .object _ => false

/-- The value is an array. -/
def isArray : Bool :=
  match value with
  | .array _ => true
  | .null | .boolean _ | .number _ | .string _ | .object _ => false

/-! ### Lookups that check -/

/-- What is thrown for a member that is missing or of the wrong kind. -/
def malformedJsonField (name : String) : Fault := .thrown (Json.malformedField name)

/-- A member, if the value is an object that has it. -/
def findJsonMember (name : String) : Lookup (Option Document) :=
  if value.isObject then value.findMember name else .ok none

/-- A member, which must be of a kind. -/
def requireJsonMember (name : String) (isKind : Document → Bool) : Lookup Document :=
  (value.findJsonMember name).bind fun found =>
    match found with
    | none => .error (malformedJsonField name)
    | some member => if isKind member then .ok member else .error (malformedJsonField name)

/-- The text of a member, which must be a string. -/
def requireJsonString (name : String) : Lookup String :=
  (value.requireJsonMember name isString).bind getText

/-- The text of a member that may be missing, and must be a string if it is not. -/
def findJsonString (name : String) : Lookup (Option String) :=
  (value.findJsonMember name).bind fun found =>
    match found with
    | none => .ok none
    | some member =>
        if !member.isString then .error (malformedJsonField name) else member.getText.map some

/-- Looking for a member never aborts. -/
theorem findJsonMember_eq (name : String) :
    value.findJsonMember name = .ok (value.member name) := by
  unfold findJsonMember findMember
  by_cases isObject : value.isObject = true
  · rw [if_pos isObject, if_pos isObject]
  · rw [if_neg isObject]
    cases value with
    | object => exact (isObject rfl).elim
    | null | boolean | number | string | array => rfl

/-- A text that must be there is read or thrown at. -/
theorem requireJsonString_eq (name : String) :
    value.requireJsonString name =
      match value.member name with
      | some (.string text) => .ok text
      | _ => .error (malformedJsonField name) := by
  rw [requireJsonString, requireJsonMember, findJsonMember_eq, Except.bind]
  cases value.member name with
  | none => rfl
  | some member => cases member <;> rfl

/-- A text that may be missing is read, missed or thrown at. -/
theorem findJsonString_eq (name : String) :
    value.findJsonString name =
      match value.member name with
      | none => .ok none
      | some (.string text) => .ok (some text)
      | some _ => .error (malformedJsonField name) := by
  rw [findJsonString, findJsonMember_eq, Except.bind]
  cases value.member name with
  | none => rfl
  | some member => cases member <;> rfl

/-- The elements of a member that must be an array are read or thrown at. -/
theorem requireJsonArray_eq (name : String) :
    (value.requireJsonMember name isArray).bind elements =
      match value.member name with
      | some (.array elements) => .ok elements
      | _ => .error (malformedJsonField name) := by
  rw [requireJsonMember, findJsonMember_eq, Except.bind]
  cases value.member name with
  | none => rfl
  | some member => cases member <;> rfl

end Document

end DataFeed.Core
