/-
# JSON Schema (draft 2020-12)

The keywords that a contract of records, texts and numbers is written with: `type`, `const`, `enum`,
`minLength`, `minimum` and `maximum`, `items`, `properties`, `required`, `additionalProperties` and
`anyOf`.  A `$ref` is replaced by what it refers to, and annotations are left out.

An object is read field by field (`accepts_object_iff`), so members that an open schema does not
name play no part: whatever has the fields of an accepted object is accepted too
(`accepts_of_fields`).
-/
import Axg.Python.Json

namespace Axg.Python

/-- A schema. -/
inductive Schema
  | any
  | null
  | boolean
  | integer
  | number (minimum maximum : Int)
  | string (minLength : Nat)
  /-- A `pattern` of so many characters of a class, and no others. -/
  | pattern (isChar : CodePoint → Bool) (length : Nat)
  /-- A `const` that is a text, and one that is a number. -/
  | literal (value : String)
  | constant (value : Int)
  | enum (values : List String)
  | array (items : Schema)
  /-- `closed` is `"additionalProperties": false`. -/
  | object (properties : List (String × Schema)) (required : List String) (closed : Bool)
  | anyOf (options : List Schema)

namespace Schema

/-- `"type": "integer"`, which a float with an integral value has. -/
def isInteger (v : Json) : Bool :=
  match v.worth with
  | some (.finite units) => units % (one : Int) == 0
  | _ => false

/-- A number between two whole ones. -/
def isBetween (minimum maximum : Int) (v : Json) : Bool :=
  match v.worth with
  | some (.finite units) => minimum * one ≤ units && units ≤ maximum * one
  | _ => false

mutual

/-- The instance validates against the schema. -/
def accepts : Schema → Json → Bool
  | any, _ => true
  | null, .null => true
  | null, _ => false
  | boolean, .bool _ => true
  | boolean, _ => false
  | integer, v => isInteger v
  | number minimum maximum, v => isBetween minimum maximum v
  | string minLength, .str s => minLength ≤ s.length
  | string _, _ => false
  | pattern isChar length, .str s => s.length == length && s.all isChar
  | pattern _ _, _ => false
  | literal value, .str s => lit value == s
  | literal _, _ => false
  | constant value, v => Json.sameNumber (.int value) v
  | enum values, .str s => (values.map lit).contains s
  | enum _, _ => false
  | array items, .arr vs => vs.all (accepts items)
  | array _, _ => false
  | object properties required closed, .obj ms =>
    acceptsFields properties ms && required.all (fun name => (Dict.keys ms).contains (lit name)) &&
      (!closed || (Dict.keys ms).all fun k => (properties.map fun p => lit p.1).contains k)
  | object _ _ _, _ => false
  | anyOf options, v => acceptsAny options v

/-- Each property that the object has validates. -/
def acceptsFields : List (String × Schema) → Dict Json → Bool
  | [], _ => true
  | (name, schema) :: properties, ms =>
    (ms.lookup (lit name)).all (accepts schema) && acceptsFields properties ms

def acceptsAny : List Schema → Json → Bool
  | [], _ => false
  | schema :: options, v => accepts schema v || acceptsAny options v

end

attribute [local simp] accepts acceptsFields acceptsAny

/-- `anyOf` with `{"type": "null"}`: a field that may be `None`. -/
def nullable (schema : Schema) : Schema := anyOf [schema, null]

variable {properties : List (String × Schema)} {required : List String} {closed : Bool}
  {ms : Dict Json} {v : Json}

theorem acceptsFields_iff :
    acceptsFields properties ms = true ↔
      ∀ p ∈ properties, ∀ w ∈ ms.lookup (lit p.1), p.2.accepts w = true := by
  induction properties with
  | nil => simp
  | cons p properties ih =>
    obtain ⟨name, schema⟩ := p
    rw [acceptsFields, Bool.and_eq_true, ih, List.forall_mem_cons, Option.all_eq_true]
    exact Iff.rfl

theorem acceptsAny_iff {options : List Schema} :
    acceptsAny options v = true ↔ ∃ schema ∈ options, schema.accepts v = true := by
  induction options with
  | nil => simp
  | cons schema options ih =>
    simp [ih]

theorem accepts_anyOf_iff {options : List Schema} :
    (anyOf options).accepts v = true ↔ ∃ schema ∈ options, schema.accepts v = true := by
  rw [accepts, acceptsAny_iff]

/-- An object has the required members, and its members validate. -/
theorem accepts_object_iff :
    (object properties required closed).accepts (.obj ms) = true ↔
      (∀ p ∈ properties, ∀ w ∈ ms.lookup (lit p.1), p.2.accepts w = true) ∧
      (∀ name ∈ required, lit name ∈ Dict.keys ms) ∧
      (closed = true → ∀ k ∈ Dict.keys ms, k ∈ properties.map fun p => lit p.1) := by
  rw [accepts, Bool.and_eq_true, Bool.and_eq_true, acceptsFields_iff, and_assoc]
  refine and_congr Iff.rfl (and_congr ?_ ?_)
  · simp only [List.all_eq_true, List.contains_iff_mem]
  · cases closed
    · simp
    · simp only [Bool.not_true, Bool.false_or, List.all_eq_true, List.contains_iff_mem,
        true_implies]

/-- A member that is there validates. -/
theorem accepts_member {name : String} {schema : Schema} {w : Json}
    (hlookup : ms.lookup (lit name) = some w) (h : schema.accepts w = true) :
    ∀ u ∈ ms.lookup (lit name), schema.accepts u = true := by
  rw [hlookup]
  rintro u ⟨⟩
  exact h

/-- The required members of an object whose keys are `names`. -/
theorem required_of_keys {names : List String} (hkeys : Dict.keys ms = names.map lit)
    (h : required ⊆ names) : ∀ name ∈ required, lit name ∈ Dict.keys ms := by
  intro name hname
  rw [hkeys]
  exact List.mem_map_of_mem (h hname)

theorem accepts_text (s : Str) : (string 0).accepts (.str s) = true := by
  simp

/-- An object of any members. -/
theorem accepts_open (ms : Dict Json) : (object [] [] false).accepts (.obj ms) = true := rfl

theorem accepts_nullable_null (schema : Schema) : (nullable schema).accepts .null = true :=
  accepts_anyOf_iff.mpr ⟨null, by simp, rfl⟩

theorem accepts_nullable {schema : Schema} (h : schema.accepts v = true) :
    (nullable schema).accepts v = true :=
  accepts_anyOf_iff.mpr ⟨schema, by simp, h⟩

theorem accepts_array {items : Schema} {vs : List Json} (h : ∀ v ∈ vs, items.accepts v = true) :
    (array items).accepts (.arr vs) = true := List.all_eq_true.mpr h

theorem accepts_integer (i : Int) : integer.accepts (.int i) = true := by
  have hone : i * (one : Int) % one = 0 := Int.mul_emod_left i one
  simp [isInteger, Json.worth, hone]

/-- A member that a contract does not name may be added, and members may change their places. -/
theorem accepts_of_fields {es : Dict Json}
    (h : (object properties required false).accepts (.obj ms) = true)
    (hfields : ∀ p ∈ properties, es.lookup (lit p.1) = ms.lookup (lit p.1))
    (hkeys : ∀ name ∈ required, lit name ∈ Dict.keys ms → lit name ∈ Dict.keys es) :
    (object properties required false).accepts (.obj es) = true := by
  obtain ⟨hproperties, hrequired, -⟩ := accepts_object_iff.mp h
  refine accepts_object_iff.mpr
    ⟨?_, fun name hname => hkeys name hname (hrequired name hname), by simp⟩
  intro p hp w hw
  rw [hfields p hp] at hw
  exact hproperties p hp w hw

end Schema

end Axg.Python
