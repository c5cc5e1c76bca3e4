import Mathlib.Data.String.Basic

/-! # Frames as trees

Frames are parsed with their numbers kept as text, so a tree has no numbers: where a
frame had one, there is its text. Lookups throw on a layout they do not expect.
-/

namespace DataFeed.Core

/-- A bind succeeds if both of its parts do. -/
theorem bind_eq_ok {Value Other : Type} {value : Except String Value}
    {next : Value → Except String Other} {result : Other}
    (bound : value.bind next = .ok result) : ∃ ok, value = .ok ok ∧ next ok = .ok result := by
  cases value with
  | error what => contradiction
  | ok value => exact ⟨value, rfl, bound⟩

/-- A map succeeds if its argument does. -/
theorem map_eq_ok {Value Other : Type} {value : Except String Value} {change : Value → Other}
    {result : Other} (mapped : value.map change = .ok result) :
    ∃ ok, value = .ok ok ∧ change ok = result := by
  cases value with
  | error what => contradiction
  | ok value => exact ⟨value, rfl, Except.ok.inj mapped⟩

/-- A parsed frame. -/
inductive Json where
  | null
  | boolean (value : Bool)
  /-- A string, or a number as it was spelled. -/
  | string (text : String)
  | array (elements : List Json)
  | object (members : List (String × Json))

namespace Json

/-- What is thrown for a member that is missing or of the wrong kind. -/
def malformedField (name : String) : String :=
  "Malformed frame: missing or mistyped \"" ++ name ++ "\""

/-- The member of an object, if it is an object that has it. -/
def findMember (object : Json) (name : String) : Option Json :=
  match object with
  | .object members => (members.find? fun member => member.1 = name).map Prod.snd
  | .null | .boolean _ | .string _ | .array _ => none

/-- The elements of a member, which must be an array. -/
def requireArray (object : Json) (name : String) : Except String (List Json) :=
  match object.findMember name with
  | some (.array elements) => .ok elements
  | _ => .error (malformedField name)

/-- The text of a member, which must be a string. -/
def requireString (object : Json) (name : String) : Except String String :=
  match object.findMember name with
  | some (.string text) => .ok text
  | _ => .error (malformedField name)

/-- The text of a member that may be missing, and must be a string if it is not. -/
def findString (object : Json) (name : String) : Except String (Option String) :=
  match object.findMember name with
  | none => .ok none
  | some (.string text) => .ok (some text)
  | some _ => .error (malformedField name)

/-- The text of a member, if it is a string. -/
def textOf (object : Json) (name : String) : Option String :=
  match object.findMember name with
  | some (.string text) => some text
  | _ => none

/-- The member is missing, or a string. -/
def TextIfAny (object : Json) (name : String) : Prop :=
  ∀ member, object.findMember name = some member → ∃ text, member = .string text

variable {object : Json} {name text : String} {elements : List Json}

/-- Requiring a text succeeds exactly on a text member. -/
theorem requireString_eq_ok_iff :
    object.requireString name = .ok text ↔ object.findMember name = some (.string text) := by
  unfold requireString
  constructor
  · intro required
    split at required
    · rename_i found member
      rw [member, Except.ok.inj required]
    · contradiction
  · intro member
    rw [member]

/-- A member has a text exactly if it is one. -/
theorem textOf_eq_some_iff :
    object.textOf name = some text ↔ object.findMember name = some (.string text) := by
  unfold textOf
  constructor
  · intro found
    split at found
    · rename_i member
      rw [member, Option.some.inj found]
    · contradiction
  · intro member
    rw [member]

/-- Requiring a text and having one agree. -/
theorem requireString_eq_ok_iff_textOf :
    object.requireString name = .ok text ↔ object.textOf name = some text :=
  requireString_eq_ok_iff.trans textOf_eq_some_iff.symm

/-- A text that is not found is thrown at. -/
theorem requireString_of_textOf_none (missing : object.textOf name = none) :
    ∃ what, object.requireString name = .error what := by
  cases required : object.requireString name with
  | error what => exact ⟨what, rfl⟩
  | ok text =>
      rw [requireString_eq_ok_iff_textOf.mp required] at missing
      contradiction

/-- Requiring an array succeeds exactly on an array member. -/
theorem requireArray_eq_ok_iff :
    object.requireArray name = .ok elements ↔
      object.findMember name = some (.array elements) := by
  unfold requireArray
  constructor
  · intro required
    split at required
    · rename_i found member
      rw [member, Except.ok.inj required]
    · contradiction
  · intro member
    rw [member]

/-- Finding a text succeeds on a text member and where there is none. -/
theorem findString_eq_ok_iff {found : Option String} :
    object.findString name = .ok found ↔ object.findMember name = found.map .string := by
  unfold findString
  constructor
  · intro read
    split at read <;> rename_i member
    · obtain rfl := Except.ok.inj read
      exact member
    · obtain rfl := Except.ok.inj read
      exact member
    · contradiction
  · intro member
    rw [member]
    cases found with
    | none => rfl
    | some text => rfl

/-- A member is missing or a text exactly where finding it succeeds. -/
theorem textIfAny_iff : object.TextIfAny name ↔ ∃ found, object.findString name = .ok found := by
  constructor
  · intro texts
    cases known : object.findMember name with
    | none => exact ⟨none, findString_eq_ok_iff.mpr known⟩
    | some member =>
        obtain ⟨text, rfl⟩ := texts member known
        exact ⟨some text, findString_eq_ok_iff.mpr known⟩
  · rintro ⟨found, read⟩ member known
    rw [findString_eq_ok_iff.mp read, Option.map_eq_some_iff] at known
    obtain ⟨text, _, rfl⟩ := known
    exact ⟨text, rfl⟩

end Json

end DataFeed.Core
