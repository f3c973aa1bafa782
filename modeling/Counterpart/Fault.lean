/-!
The kinds of failure. A cause of failure, wherever it is defined, belongs to one of these kinds.
-/
namespace Counterpart

/-- What sort of thing went wrong. -/
inductive FaultKind where
  /-- A definition is malformed or breaks a rule. -/
  | invalid
  | attribute
  | type
  | value
  | key
  | index
  | overflow
  | name
  | layout
  | serialization
  | replica
  | encoding
  | unimplemented
  | raised
  | memory
  | recursion
  | cancelled
  | timeout
  | missingFile
  | directory
  | notDirectory
  | existingFile
  | system
  | markup
  | grammar
  | exhausted
  deriving DecidableEq, Repr

end Counterpart
