import ApiDrift.Bump

/-!
# The catalog of changes

Every difference between two snapshots is of one of eleven kinds. A kind fixes the severity of the change and the sentence that describes it.
-/

namespace ApiDrift

inductive Change
  | removedDefaultValue
  | changedDefaultValue
  | entityWasIntroduced
  | entityWasRemoved
  | functionWasOverloaded
  | overloadedFunctionRemoved
  | parameterAddedToSignature
  | parameterDefaultsAddedToSignature
  | parameterRemovedFromSignature
  | typeChangedToCompatibleType
  | typeChangedToIncompatibleType
  deriving DecidableEq

namespace Change

/-- Catalog order. -/
def all : List Change :=
  [removedDefaultValue, changedDefaultValue, entityWasIntroduced, entityWasRemoved,
    functionWasOverloaded, overloadedFunctionRemoved, parameterAddedToSignature,
    parameterDefaultsAddedToSignature, parameterRemovedFromSignature,
    typeChangedToCompatibleType, typeChangedToIncompatibleType]

def severity : Change → Bump
  | removedDefaultValue => .major
  | changedDefaultValue => .patch
  | entityWasIntroduced => .minor
  | entityWasRemoved => .major
  | functionWasOverloaded => .minor
  | overloadedFunctionRemoved => .major
  | parameterAddedToSignature => .major
  | parameterDefaultsAddedToSignature => .minor
  | parameterRemovedFromSignature => .major
  | typeChangedToCompatibleType => .patch
  | typeChangedToIncompatibleType => .major

def description : Change → String
  | removedDefaultValue => "Default value was removed"
  | changedDefaultValue => "Default value was changed"
  | entityWasIntroduced => "Entity was introduced"
  | entityWasRemoved => "Entity was removed"
  | functionWasOverloaded => "Function was overloaded"
  | overloadedFunctionRemoved => "Overloaded function was removed"
  | parameterAddedToSignature => "Parameter(s) added to function signature"
  | parameterDefaultsAddedToSignature =>
    "Parameter(s) with default value(s) added to function signature"
  | parameterRemovedFromSignature => "Parameter(s) removed from function signature"
  | typeChangedToCompatibleType => "Type was changed to a compatible type"
  | typeChangedToIncompatibleType => "Type was changed to an incompatible type"

/-- The word for the kind in documents. -/
def word : Change → String
  | removedDefaultValue => "removed_default_value"
  | changedDefaultValue => "changed_default_value"
  | entityWasIntroduced => "entity_was_introduced"
  | entityWasRemoved => "entity_was_removed"
  | functionWasOverloaded => "function_was_overloaded"
  | overloadedFunctionRemoved => "overloaded_function_removed"
  | parameterAddedToSignature => "parameter_added_to_signature"
  | parameterDefaultsAddedToSignature => "parameter_defaults_added_to_signature"
  | parameterRemovedFromSignature => "parameter_removed_from_signature"
  | typeChangedToCompatibleType => "type_changed_to_compatible_type"
  | typeChangedToIncompatibleType => "type_changed_to_incompatible_type"

/-- The word for the kind in log lines. -/
def symbol : Change → String
  | removedDefaultValue => "RemovedDefaultValue"
  | changedDefaultValue => "ChangedDefaultValue"
  | entityWasIntroduced => "EntityWasIntroduced"
  | entityWasRemoved => "EntityWasRemoved"
  | functionWasOverloaded => "FunctionWasOverloaded"
  | overloadedFunctionRemoved => "OverloadedFunctionRemoved"
  | parameterAddedToSignature => "ParameterAddedToSignature"
  | parameterDefaultsAddedToSignature => "ParameterDefaultsAddedToSignature"
  | parameterRemovedFromSignature => "ParameterRemovedFromSignature"
  | typeChangedToCompatibleType => "TypeChangedToCompatibleType"
  | typeChangedToIncompatibleType => "TypeChangedToIncompatibleType"

end Change

end ApiDrift
