/-!
# Scalars and storage

A value object wraps one scalar.  Its semantic kind decides which, and the
scalar decides how a column that holds it is stored.

## Main definitions

* `Scalar` — the six scalar categories.
* `ValueKind` — the semantic kinds of value objects.
* `Storage`, `ColumnSource.storage` — column types and what they are made from.
-/

namespace Scaffold

/-! ### Scalars -/

/-- A scalar category. -/
inductive Scalar where
  | string
  | int
  | float
  | bool
  | array
  | dateTime
  deriving DecidableEq, Repr, Inhabited

namespace Scalar

/-- All categories. -/
def all : List Scalar := [string, int, float, bool, array, dateTime]

/-- The word for a category in schemas. -/
def tag : Scalar → String
  | string => "string"
  | int => "int"
  | float => "float"
  | bool => "bool"
  | array => "array"
  | dateTime => "datetime"

/-- The category a word names. -/
def ofTag? (word : String) : Option Scalar := all.find? (·.tag == word)

theorem ofTag?_tag (s : Scalar) : ofTag? s.tag = some s := by cases s <;> decide

theorem tag_injective {a b : Scalar} (h : a.tag = b.tag) : a = b :=
  Option.some.inj ((ofTag?_tag a).symm.trans (h ▸ ofTag?_tag b))

/-- The type hint of a category in generated PHP sources. -/
def phpType : Scalar → String
  | string => "string"
  | int => "int"
  | float => "float"
  | bool => "bool"
  | array => "array"
  | dateTime => "\\DateTimeImmutable"

end Scalar

/-! ### Kinds of value objects -/

/-- The semantic kind of a value object. -/
inductive ValueKind where
  | identityUuid
  | identityEmail
  | identityUsername
  | identityPassword
  | personName
  | personAge
  | personGender
  | moneyAmount
  | moneyCurrency
  | numberInteger
  | numberDecimal
  | textString
  | flagBoolean
  | dateTimeDate
  | dateTimeDateTime
  | structureCollection
  deriving DecidableEq, Repr, Inhabited

namespace ValueKind

/-- All kinds. -/
def all : List ValueKind :=
  [identityUuid, identityEmail, identityUsername, identityPassword, personName, personAge,
    personGender, moneyAmount, moneyCurrency, numberInteger, numberDecimal, textString,
    flagBoolean, dateTimeDate, dateTimeDateTime, structureCollection]

/-- The word for a kind in schemas. -/
def tag : ValueKind → String
  | identityUuid => "identity_uuid"
  | identityEmail => "identity_email"
  | identityUsername => "identity_username"
  | identityPassword => "identity_password"
  | personName => "person_name"
  | personAge => "person_age"
  | personGender => "person_gender"
  | moneyAmount => "money_amount"
  | moneyCurrency => "money_currency"
  | numberInteger => "number_integer"
  | numberDecimal => "number_decimal"
  | textString => "text_string"
  | flagBoolean => "flag_boolean"
  | dateTimeDate => "dateTime_date"
  | dateTimeDateTime => "dateTime_dateTime"
  | structureCollection => "structure_collection"

/-- The kind a word names. -/
def ofTag? (word : String) : Option ValueKind := all.find? (·.tag == word)

theorem ofTag?_tag (k : ValueKind) : ofTag? k.tag = some k := by cases k <;> decide

/-- The scalar a value object of this kind wraps. -/
def scalar : ValueKind → Scalar
  | personAge | numberInteger => .int
  | moneyAmount | numberDecimal => .float
  | flagBoolean => .bool
  | dateTimeDate | dateTimeDateTime => .dateTime
  | structureCollection => .array
  | _ => .string

end ValueKind

/-! ### Columns -/

/-- The type of a stored column. -/
inductive Storage where
  | string
  | integer
  | float
  | boolean
  | json
  | dateTime
  | uuidBinary
  deriving DecidableEq, Repr, Inhabited

/-- The word for a column type. -/
def Storage.tag : Storage → String
  | string => "string"
  | integer => "integer"
  | float => "float"
  | boolean => "boolean"
  | json => "json"
  | dateTime => "datetime"
  | uuidBinary => "uuid_binary"

/-- What a column holds: an identity, or a scalar. -/
inductive ColumnSource where
  | uuid
  | scalar (s : Scalar)
  deriving DecidableEq, Repr, Inhabited

/-- How a column is stored. -/
def ColumnSource.storage : ColumnSource → Storage
  | uuid => .uuidBinary
  | scalar .string => .string
  | scalar .int => .integer
  | scalar .float => .float
  | scalar .bool => .boolean
  | scalar .array => .json
  | scalar .dateTime => .dateTime

end Scaffold
