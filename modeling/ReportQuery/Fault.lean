/-!
# Faults of a document

A document that does not have the shape that is asked for has one or more faults, each with its
path from the root. All faults are collected, in the order of the fields, so that one answer
shows everything that is wrong.
-/

namespace ReportQuery

/-- A step of a path: into a field or an alternative, or to an element of a list. -/
inductive PathStep where
  | key (name : String)
  | index (n : Nat)
deriving Repr, DecidableEq

/-- What is wrong with a part of a document. -/
inductive FaultKind where
  | missing
  | notText
  | notInteger
  | notNumber
  | notTruthValue
  | notList
  | notRecord (shape : String)
  | notAmong (words : List String)
  | notTheWord (word : String)
  | notTagged
  | tagMissing
  | tagUnknown (tag : String)
  | notIntegerText
  | notTruthWord
deriving Repr, DecidableEq

/-- A fault with its path. -/
structure Fault where
  path : List PathStep
  kind : FaultKind
deriving Repr, DecidableEq

namespace FaultKind

/-- The short name of the kind. -/
def code : FaultKind → String
  | .missing => "missing"
  | .notText => "string_type"
  | .notInteger => "int_type"
  | .notNumber => "float_type"
  | .notTruthValue => "bool_type"
  | .notList => "list_type"
  | .notRecord _ => "model_type"
  | .notAmong _ => "enum"
  | .notTheWord _ => "literal_error"
  | .notTagged => "model_attributes_type"
  | .tagMissing => "union_tag_not_found"
  | .tagUnknown _ => "union_tag_invalid"
  | .notIntegerText => "int_parsing"
  | .notTruthWord => "bool_parsing"

/-- Quoted words with commas between them and the word `or` before the last. -/
def alternatives : List String → String
  | [] => ""
  | [w] => "'" ++ w ++ "'"
  | [v, w] => "'" ++ v ++ "' or '" ++ w ++ "'"
  | w :: ws => "'" ++ w ++ "', " ++ alternatives ws

/-- The wording of the kind. -/
def message : FaultKind → String
  | .missing => "Field required"
  | .notText => "Input should be a valid string"
  | .notInteger => "Input should be a valid integer"
  | .notNumber => "Input should be a valid number"
  | .notTruthValue => "Input should be a valid boolean"
  | .notList => "Input should be a valid list"
  | .notRecord shape => "Input should be a valid dictionary or instance of " ++ shape
  | .notAmong words => "Input should be " ++ alternatives words
  | .notTheWord word => "Input should be " ++ alternatives [word]
  | .notTagged => "Input should be a valid dictionary or object to extract fields from"
  | .tagMissing => "Unable to extract tag using discriminator 'kind'"
  | .tagUnknown tag =>
    "Input tag '" ++ tag ++ "' found using 'kind' does not match any of the expected tags: " ++
      "'column', 'literal'"
  | .notIntegerText =>
    "Input should be a valid integer, unable to parse string as an integer"
  | .notTruthWord => "Input should be a valid boolean, unable to interpret input"

end FaultKind

/-- The headline of a report on the faults of a document of the given shape. -/
def faultHeadline (shape : String) (count : Nat) : String :=
  toString count ++ (if count = 1 then " validation error for " else " validation errors for ") ++
    shape

end ReportQuery
