import SqlBuilder.Value.Shown

/-!
# Faults of a checked value

A check reports every fault it finds, each with the place inside the value where it was found.
-/

namespace SqlBuilder

/-- A step into a value: to a field or a key, or to the element at an index. -/
inductive Place
  | named (name : String)
  | at (index : Int)
  deriving DecidableEq, Repr

/-- What is wrong with a value. -/
inductive Fault
  | missing
  | frozen
  | notText
  | undecodable
  | notBoolean
  | unreadableBoolean
  | notInteger
  | unreadableInteger
  | fractional
  | notFinite
  | oversized
  | negative
  | notTuple
  | notList
  | notMapping
  | notRecord (title : String)
  | notMember (words : List String)
  | notBrand (brand : String)
  | noEnumValues
  | defaultOutside (shown : String) (values : List String)
  deriving DecidableEq, Repr

structure Issue where
  path : List Place
  fault : Fault
  deriving DecidableEq, Repr

namespace Fault

/-- Words in quotes with `or` before the last. -/
def alternatives : List String → String
  | [] => ""
  | [w] => Text.shown w
  | [v, w] => Text.shown v ++ " or " ++ Text.shown w
  | w :: ws => Text.shown w ++ ", " ++ alternatives ws

/-- The name of a fault. -/
def code : Fault → String
  | missing => "missing"
  | frozen => "frozen_instance"
  | notText => "string_type"
  | undecodable => "string_unicode"
  | notBoolean => "bool_type"
  | unreadableBoolean => "bool_parsing"
  | notInteger => "int_type"
  | unreadableInteger => "int_parsing"
  | fractional => "int_from_float"
  | notFinite => "finite_number"
  | oversized => "int_parsing_size"
  | negative => "greater_than_equal"
  | notTuple => "tuple_type"
  | notList => "list_type"
  | notMapping => "dict_type"
  | notRecord _ => "model_type"
  | notMember _ => "enum"
  | notBrand _ => "literal_error"
  | noEnumValues | defaultOutside .. => "value_error"

def message : Fault → String
  | missing => "Field required"
  | frozen => "Instance is frozen"
  | notText => "Input should be a valid string"
  | undecodable =>
    "Input should be a valid string, unable to parse raw data as a unicode string"
  | notBoolean => "Input should be a valid boolean"
  | unreadableBoolean => "Input should be a valid boolean, unable to interpret input"
  | notInteger => "Input should be a valid integer"
  | unreadableInteger => "Input should be a valid integer, unable to parse string as an integer"
  | fractional => "Input should be a valid integer, got a number with a fractional part"
  | notFinite => "Input should be a finite number"
  | oversized => "Unable to parse input string as an integer, exceeded maximum size"
  | negative => "Input should be greater than or equal to 0"
  | notTuple => "Input should be a valid tuple"
  | notList => "Input should be a valid list"
  | notMapping => "Input should be a valid dictionary"
  | notRecord title => "Input should be a valid dictionary or instance of " ++ title
  | notMember words => "Input should be " ++ alternatives words
  | notBrand brand => "Input should be " ++ alternatives [brand]
  | noEnumValues => "Value error, enum type needs at least one value"
  | defaultOutside shown values =>
    "Value error, default " ++ shown ++ " is not one of " ++ commaSeparated values

end Fault

end SqlBuilder
