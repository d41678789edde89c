import MonetaryText.Decimal.Notation
import MonetaryText.Text.UpperCase
import MonetaryText.Text.Quoted

/-!
Log records: events with fields, one record for each event whose level is high enough.
-/

namespace MonetaryText.Log

/-- Values of fields. -/
inductive Value where
  | null
  | flag (value : Bool)
  | number (mantissa : Int) (places : Nat)
  | text (value : String)
  | decimal (value : Number)
  | list (items : List Value)
  | record (fields : List (String × Value))
  deriving Inhabited

abbrev Fields := List (String × Value)

inductive Method where
  | debug | info | warning | error | critical
  deriving DecidableEq, Repr

namespace Method

def all : List Method := [debug, info, warning, error, critical]

def name : Method → String
  | debug => "debug"
  | info => "info"
  | warning => "warning"
  | error => "error"
  | critical => "critical"

def ofName? (name : String) : Option Method := all.find? (·.name == name)

def level : Method → Nat
  | debug => 10
  | info => 20
  | warning => 30
  | error => 40
  | critical => 50

end Method

structure Event where
  method : Method
  name : String
  fields : Fields

/-- Levels by name; some have two names. -/
def levels : List (String × Nat) :=
  [("CRITICAL", 50), ("FATAL", 50), ("ERROR", 40), ("WARN", 30), ("WARNING", 30), ("INFO", 20),
    ("DEBUG", 10), ("NOTSET", 0)]

/-- A name that is no level, in capitals. -/
structure UnknownLevel where
  name : String
  deriving DecidableEq, Repr

def UnknownLevel.message (unknown : UnknownLevel) : String :=
  "module 'logging' has no attribute '" ++ unknown.name ++ "'"

/-- The least level that is written, by a name in any case. -/
def threshold (name : String) : Except UnknownLevel Nat :=
  let name := String.ofList (Text.upperCase name.toList)
  match levels.lookup name with
  | some level => .ok level
  | none => .error ⟨name⟩

mutual

/-- A value inside another one; decimals show what they are. -/
def Value.nested : Value → Value
  | .decimal n => .text ("Decimal('" ++ n.toString ++ "')")
  | .list items => .list (nestedItems items)
  | .record fields => .record (nestedFields fields)
  | value => value

def nestedItems : List Value → List Value
  | [] => []
  | item :: rest => item.nested :: nestedItems rest

def nestedFields : Fields → Fields
  | [] => []
  | (name, value) :: rest => (name, value.nested) :: nestedFields rest

end

/-- The value of a field; a decimal is written as its numeral. -/
def Value.written : Value → Value
  | .decimal n => .text n.toString
  | value => value.nested

/-- The record of an event, if its level is high enough. The fields of an event go before those of
the context, and the names of event, level and time before both. Records are without their time. -/
def written? (threshold : Nat) (context : Fields) (event : Event) : Option Fields :=
  if event.method.level < threshold then none
  else
    let own : Fields :=
      [("event", .text event.name), ("level", .text event.method.name)]
    let taken (fields : Fields) (name : String) : Bool := (fields.lookup name).isSome
    let fresh := event.fields.filter fun field => !taken own field.1 && field.1 != "timestamp"
    let known := own ++ fresh.map fun field => (field.1, field.2.written)
    let around := context.filter fun field => !taken known field.1 && field.1 != "timestamp"
    some (known ++ around.map fun field => (field.1, field.2.written))

end MonetaryText.Log
