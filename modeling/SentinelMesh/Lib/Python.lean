/-
# Values of a Python program

A dictionary of a Python program can have a value of any type under a key, and an operation that
does not fit the type raises.  `Value` is a value, `Py α` what an expression comes to: a result, or
the exception it raises, with the text of that.

`maxByKey` and `minByKey` are `max` and `min` of an iterable whose elements are computed one by one: of
several that are equal the first is taken, and of one element nothing is compared (`maxByKey_singleton`,
`minByKey_singleton`).
-/

import SentinelMesh.Lib.Rfc3339
import Mathlib.Data.Rat.Init

namespace Lib
namespace Python

/-- The exceptions that are raised here, with what `str` makes of them. -/
inductive Error
  | attributeError (message : String)
  | indexError (message : String)
  | keyError (message : String)
  | typeError (message : String)
  | valueError (message : String)
  /-- Another one. -/
  | other (message : String)
  deriving DecidableEq

/-- `str(e)`. -/
def Error.text : Error → String
  | attributeError message => message
  | indexError message => message
  | keyError message => message
  | typeError message => message
  | valueError message => message
  | other message => message

/-- What an expression comes to. -/
abbrev Py (α : Type) := Except Error α

/-- A value.  A datetime is one with the time zone UTC. -/
inductive Value
  | none
  | bool (b : Bool)
  | int (n : ℤ)
  | float (x : ℚ)
  | str (s : String)
  | datetime (t : UtcTime)
  | list (l : List Value)
  | dict (d : List (String × Value))

/-- A string, or `None`. -/
def Value.ofOption : Option String → Value
  | .none => .none
  | some s => .str s

/-- A float, or `None`. -/
def Value.ofFloat : Option ℚ → Value
  | .none => .none
  | some x => .float x

/-- `type(v).__name__`. -/
def Value.typeName : Value → String
  | .none => "NoneType"
  | bool _ => "bool"
  | int _ => "int"
  | float _ => "float"
  | str _ => "str"
  | datetime _ => "datetime.datetime"
  | list _ => "list"
  | dict _ => "dict"

/-- `bool(v)`. -/
def Value.truthy : Value → Bool
  | .none => false
  | bool b => b
  | int n => decide (n ≠ 0)
  | float x => decide (x ≠ 0)
  | str s => decide (s ≠ "")
  | datetime _ => true
  | list l => !l.isEmpty
  | dict d => !d.isEmpty

/-- `v is None`. -/
def Value.isNone : Value → Bool
  | .none => true
  | _ => false

/-- `a or b`. -/
def Value.or (a b : Value) : Value := if a.truthy then a else b

/-- `d[key]`. -/
def Value.getItem (d : Value) (key : String) : Py Value :=
  match d with
  | dict entries => match entries.lookup key with
    | some v => .ok v
    | Option.none => .error (.keyError ("'" ++ key ++ "'"))
  | str _ => .error (.typeError "string indices must be integers, not 'str'")
  | v => .error (.typeError ("'" ++ v.typeName ++ "' object is not subscriptable"))

/-- `d.get(key)`. -/
def Value.get (d : Value) (key : String) : Py Value :=
  match d with
  | dict entries => .ok ((entries.lookup key).getD .none)
  | v => .error (.attributeError ("'" ++ v.typeName ++ "' object has no attribute 'get'"))

/-- `v.isoformat()`. -/
def Value.isoformat : Value → Py String
  | datetime t =>
    let fraction := if t.microsecond = 0 then [] else '.' :: paddedDigits 6 t.microsecond
    .ok (String.ofList (t.wholeChars ++ fraction) ++ "+00:00")
  | v => .error (.attributeError ("'" ++ v.typeName ++ "' object has no attribute 'isoformat'"))

/-- The number of a value that is one. -/
def Value.number : Value → Option ℚ
  | bool b => some (if b then 1 else 0)
  | int n => some n
  | float x => some x
  | _ => Option.none

/-- `a > b`, of numbers, of strings and of times. -/
def Value.gt (a b : Value) : Py Bool :=
  match a.number, b.number with
  | some x, some y => .ok (decide (y < x))
  | _, _ => match a, b with
    | str s, str t => .ok (decide (t < s))
    | datetime s, datetime t => .ok (decide (t < s))
    | _, _ => .error (.typeError ("'>' not supported between instances of '" ++ a.typeName ++
        "' and '" ++ b.typeName ++ "'"))

/-- `a < b`, of numbers, of strings and of times. -/
def Value.lt (a b : Value) : Py Bool :=
  match a.number, b.number with
  | some x, some y => .ok (decide (x < y))
  | _, _ => match a, b with
    | str s, str t => .ok (decide (s < t))
    | datetime s, datetime t => .ok (decide (s < t))
    | _, _ => .error (.typeError ("'<' not supported between instances of '" ++ a.typeName ++
        "' and '" ++ b.typeName ++ "'"))

/-- `l.index(x)`. -/
def index (l : List String) (x : Value) : Py Value :=
  match x with
  | .str s => match l.findIdx? fun y => y == s with
    | some i => .ok (.int i)
    | none => .error (.valueError ("'" ++ s ++ "' is not in list"))
  | v => .error (.valueError (v.typeName ++ " is not in list"))

/-- The first of the elements that no later one beats. -/
def bestByKey {α : Type} (beats : Value → Value → Py Bool) (key : α → Py Value) :
    List (Py α) → α → Value → Py α
  | [], best, _ => .ok best
  | x :: xs, best, bestKey => do
    let a ← x
    let k ← key a
    if ← beats k bestKey then bestByKey beats key xs a k else bestByKey beats key xs best bestKey

/-- `max(xs, key=key)`. -/
def maxByKey {α : Type} (key : α → Py Value) : List (Py α) → Py α
  | [] => .error (.valueError "max() arg is an empty sequence")
  | x :: xs => do
    let a ← x
    let k ← key a
    bestByKey Value.gt key xs a k

/-- `min(xs, key=key)`. -/
def minByKey {α : Type} (key : α → Py Value) : List (Py α) → Py α
  | [] => .error (.valueError "min() arg is an empty sequence")
  | x :: xs => do
    let a ← x
    let k ← key a
    bestByKey Value.lt key xs a k

/-- `s[:n]`. -/
def prefixOf (n : ℕ) (s : String) : String := String.ofList (s.toList.take n)

/-- `datetime(year, month, day, hour, minute, second, tzinfo=timezone.utc)`. -/
def datetime (year month day hour minute second : ℤ) : Py UtcTime :=
  if hyear : ¬ (1 ≤ year ∧ year ≤ 9999) then
    .error (.valueError ("year " ++ toString year ++ " is out of range"))
  else if hmonth : ¬ (1 ≤ month ∧ month ≤ 12) then .error (.valueError "month must be in 1..12")
  else if hday : ¬ (1 ≤ day ∧ day ≤ daysIn year.toNat month.toNat) then
    .error (.valueError "day is out of range for month")
  else if hhour : ¬ (0 ≤ hour ∧ hour ≤ 23) then .error (.valueError "hour must be in 0..23")
  else if hminute : ¬ (0 ≤ minute ∧ minute ≤ 59) then .error (.valueError "minute must be in 0..59")
  else if hsecond : ¬ (0 ≤ second ∧ second ≤ 59) then .error (.valueError "second must be in 0..59")
  else
    .ok
      { year := year.toNat
        month := month.toNat
        day := day.toNat
        hour := hour.toNat
        minute := minute.toNat
        second := second.toNat
        microsecond := 0
        year_lt := by omega
        month_mem := by omega
        day_mem := by omega
        hour_lt := by omega
        minute_lt := by omega
        second_lt := by omega
        microsecond_lt := by norm_num }

/-! ### What expressions come to -/

@[simp] theorem ok_bind {α β : Type} (a : α) (f : α → Py β) : (Except.ok a >>= f) = f a := rfl

@[simp] theorem get_dict (d : List (String × Value)) (key : String) :
    (Value.dict d).get key = .ok ((d.lookup key).getD .none) := rfl

/-- Of one element nothing is compared. -/
@[simp] theorem maxByKey_singleton {α : Type} (key : α → Py Value) (x : Py α) :
    maxByKey key [x] = (do let a ← x; let _ ← key a; pure a) := by
  cases x with
  | error e => rfl
  | ok a => rfl

/-- Of one element nothing is compared. -/
@[simp] theorem minByKey_singleton {α : Type} (key : α → Py Value) (x : Py α) :
    minByKey key [x] = (do let a ← x; let _ ← key a; pure a) := by
  cases x with
  | error e => rfl
  | ok a => rfl

/-- A date and a time of day there is. -/
def ValidDate (year month day hour minute second : ℤ) : Prop :=
  (1 ≤ year ∧ year ≤ 9999) ∧ (1 ≤ month ∧ month ≤ 12) ∧
    (1 ≤ day ∧ day ≤ daysIn year.toNat month.toNat) ∧ (0 ≤ hour ∧ hour ≤ 23) ∧
    (0 ≤ minute ∧ minute ≤ 59) ∧ 0 ≤ second ∧ second ≤ 59

/-- **When a datetime is made.** -/
theorem exists_datetime_iff {year month day hour minute second : ℤ} :
    (∃ t, datetime year month day hour minute second = .ok t) ↔
      ValidDate year month day hour minute second := by
  unfold datetime ValidDate
  constructor
  · rintro ⟨t, ht⟩
    split_ifs at ht with hyear hmonth hday hhour hminute hsecond
    exact ⟨hyear, hmonth, hday, hhour, hminute, hsecond⟩
  · rintro ⟨hyear, hmonth, hday, hhour, hminute, hsecond⟩
    rw [dif_neg (not_not.2 hyear), dif_neg (not_not.2 hmonth), dif_neg (not_not.2 hday),
      dif_neg (not_not.2 hhour), dif_neg (not_not.2 hminute), dif_neg (not_not.2 hsecond)]
    exact ⟨_, rfl⟩

end Python

/-! ### Schemas -/

namespace JsonSchema

open Python

/-- The types of a schema. -/
inductive JsonType
  | string
  | null
  | boolean
  | number
  | integer
  deriving DecidableEq

/-- A value is of a type: a bool is no number, and a float without a fraction is an integer. -/
def JsonType.accepts : JsonType → Value → Bool
  | string, .str _ => true
  | null, .none => true
  | boolean, .bool _ => true
  | number, .int _ => true
  | number, .float _ => true
  | integer, .int _ => true
  | integer, .float x => decide (x.den = 1)
  | _, _ => false

/-- A property; a format is an annotation. -/
structure Property where
  types : List JsonType
  minimum : Option ℚ := none

/-- An object with properties. -/
structure Schema where
  required : List String
  properties : List (String × Property)
  additionalProperties : Bool

/-- The value is of one of the types, and not below the minimum if it is a number. -/
def Property.accepts (p : Property) (v : Value) : Bool :=
  p.types.any (·.accepts v) && match p.minimum, v with
    | some least, .int n => decide (least ≤ n)
    | some least, .float x => decide (least ≤ x)
    | _, _ => true

/-- `jsonschema.validate` raises nothing. -/
def Schema.validates (schema : Schema) : Value → Bool
  | .dict d =>
    (schema.required.all fun key => (d.lookup key).isSome) &&
      d.all fun (key, v) => match schema.properties.lookup key with
        | some p => p.accepts v
        | none => schema.additionalProperties
  | _ => false

end JsonSchema
end Lib
