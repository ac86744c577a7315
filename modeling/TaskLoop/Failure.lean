import TaskLoop.Decimal.Shortest

/-!
What can go wrong, by cause, and the words for it.
-/

set_option autoImplicit false

namespace TaskLoop

/-- A failure with what was being done when it happened: the outermost message first, its causes
after it. -/
structure Failure where
  message : String
  causes : List String
  deriving DecidableEq, Repr, Inhabited

namespace Failure

/-- A failure without a further cause. -/
def root (message : String) : Failure := ⟨message, []⟩

/-- The failure seen from what was being done. -/
def within (failure : Failure) (doing : String) : Failure :=
  ⟨doing, failure.message :: failure.causes⟩

/-- The message and its causes in one line. -/
def line (failure : Failure) : String :=
  ": ".intercalate (failure.message :: failure.causes)

end Failure

/-- Settings that cannot be used. -/
inductive SettingsError where
  | noIterations (given : Nat)
  | retryBounds (least most ceiling : Nat)
  | threshold (given : Float)
  | badValue (key message : String)
  | unreadable (path message : String)

/-- The words for settings that cannot be used. -/
def SettingsError.message : SettingsError → String
  | noIterations given => s!"max_iterations must be positive, got {given}"
  | retryBounds least most ceiling =>
    s!"invalid retry bounds: min_retries={least} max_retries={most} ceiling={ceiling}"
  | threshold given =>
    "similarity threshold must be within [0.0, 1.0], got "
      ++ String.ofList (Decimal.plainText given)
  | badValue key message => s!"invalid value for {key}: {message}"
  | unreadable path message => s!"failed to parse configuration at {path}: {message}"

/-- A checkpoint that is missing, damaged or out of reach. -/
inductive CheckpointError where
  | notFound (reference : String)
  | corrupt (path reason : String)
  | disk (path cause : String)
  | other (failure : Failure)

/-- The words for a checkpoint that is missing, damaged or out of reach. -/
def CheckpointError.message : CheckpointError → String
  | notFound reference => s!"checkpoint not found: {reference}"
  | corrupt path reason => s!"checkpoint {path} failed integrity validation: {reason}"
  | disk path cause => s!"checkpoint I/O error at {path}: {cause}"
  | other failure => failure.message

/-- A pattern table or error database that cannot be read, written or changed. -/
inductive StoreError where
  | unreadable (path cause : String)
  | malformed (path message : String)
  | unknownHash (hash : String)
  | alreadyResolved (hash : String)
  | other (failure : Failure)

/-- The words for a store that cannot be read, written or changed. -/
def StoreError.message : StoreError → String
  | unreadable path cause => s!"failed to read {path}: {cause}"
  | malformed path message => s!"failed to parse {path}: {message}"
  | unknownHash hash => s!"no error record with hash {hash}"
  | alreadyResolved hash => s!"error record {hash} is already resolved"
  | other failure => failure.message

/-- Whatever stops an engine. -/
inductive EngineError where
  | settings (error : SettingsError)
  | persistence (operation : String) (cause : Failure)
  | checkpoint (error : CheckpointError)
  | store (error : StoreError)
  | locked (path : String)
  | inactive (session : String)
  | other (failure : Failure)

/-- The words for whatever stops an engine. -/
def EngineError.message : EngineError → String
  | settings error => s!"configuration rejected: {error.message}"
  | persistence operation cause => s!"persistence failure during {operation}: {cause.message}"
  | checkpoint error => error.message
  | store error => error.message
  | locked path => s!"another engine holds the lock at {path}"
  | inactive session => s!"session {session} is not active"
  | other failure => failure.message

end TaskLoop
