namespace TableQuery

inductive FailureKind
  | configuration
  | validation
  | engine
  | connection
  | notFound
  | storage
  | internal
deriving DecidableEq, Repr

structure Failure where
  kind : FailureKind
  message : String
deriving DecidableEq, Repr

namespace FailureKind

def code : FailureKind → String
  | .configuration => "CONFIGURATION_ERROR"
  | .validation => "VALIDATION_ERROR"
  | .engine => "ENGINE_ERROR"
  | .connection => "CONNECTION_ERROR"
  | .notFound => "NOT_FOUND"
  | .storage => "STORAGE_ERROR"
  | .internal => "INTERNAL_ERROR"

def title : FailureKind → String
  | .configuration => "Configuration error"
  | .validation => "Validation error"
  | .engine => "Engine error"
  | .connection => "Connection error"
  | .notFound => "Not found"
  | .storage => "Storage error"
  | .internal => "Internal server error"

end FailureKind

def Failure.text (f : Failure) : String := f.kind.title ++ ": " ++ f.message

end TableQuery
