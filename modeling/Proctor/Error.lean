import Proctor.Pattern

/-!
# Errors

Everything that can go wrong, by its cause. `Error.message` holds the wording of
those that have one; the rest are known by their kind alone.
-/

namespace Proctor

/-- A value outside its domain. -/
inductive Unfit where
  | logLevel (level : String)
  /-- A field that takes a positive whole number. -/
  | notPositive (field : String) (value : Value)
  /-- A field that takes one of some names. -/
  | choice (field : String) (value : Value) (choices : List String)
  /-- A field that takes no negative number. -/
  | negative (field : String) (value : Int)
  | emptyDescription
  | mode (value : Value)
  /-- A pattern that asks for two alphabets at once. -/
  | alphabets
  /-- A pattern with a number of rounds of so many digits. -/
  | longNumber (digits : Nat)
  /-- A naming rule in which a double star is not a part of its own. -/
  | doubleStar
  deriving Repr

namespace Unfit

/-- The names of the logging levels. -/
def logLevels : List String :=
  ["CRITICAL", "FATAL", "ERROR", "WARN", "WARNING", "INFO", "DEBUG", "NOTSET"]

/-- What is wrong with the value. -/
def message : Unfit → String
  | logLevel level =>
    "Invalid log_level '" ++ level ++ "'. Must be one of " ++ Text.quotedList logLevels ++ "."
  | notPositive field value =>
    "Field '" ++ field ++ "' must be positive integer, got " ++ value.display
  | choice field value choices =>
    "Invalid " ++ field ++ " '" ++ value.display ++ "'. Must be one of " ++
      Text.quotedList choices ++ "."
  | negative field value => "Field '" ++ field ++ "' must be non-negative, got " ++ toString value
  | emptyDescription => "TestContext.describe must be a non-empty string"
  | mode value => value.literal ++ " is not a valid RunMode"
  | alphabets => Pattern.Fault.conflictingAlphabets.message
  | longNumber digits => (Pattern.Fault.longNumber digits).message
  | doubleStar => "Invalid pattern: '**' can only be an entire path component"

end Unfit

/-- What is wrong with a configuration, or with asking it for something it lacks. -/
inductive Misconfigured where
  | noProfile (tag : String) (known : List String)
  | notProfile (tag typeName : String)
  | fileMissing (path : String)
  | fileIllFormed (path : String)
  | fileUnreadable (path : String)
  | sectionNotTable (name typeName : String)
  | languageNotTable (tag path : String)
  | unknownKeys (tag : String) (keys allowed : List String)
  | timeoutText (text : String)
  /-- A value that its field refuses, in a file if there is one. -/
  | badValue (why : Unfit) (path : Option String)
  /-- A value of the wrong type, or a field that does not exist. -/
  | badType (path : Option String)
  | noTemplates
  | unknownStrategy (name language : String) (known : List String)
  | unknownDirectory (strategy : String) (known : List String)
  | unknownOutput (mode : String) (known : List String)
  | unknownKind (file : String)
  deriving Repr

namespace Misconfigured

/-- The file a problem was found in, as a suffix of its message. -/
def inFile (path : String) : String := " (Config: '" ++ path ++ "')"

/-- The suffix for a file, if there is one. -/
def inFile? (path : Option String) : String := (path.map inFile).getD ""

/-- What is wrong. -/
def message : Misconfigured → String
  | noProfile tag known =>
    "No language profile registered for file type '" ++ tag ++ "'. Available: " ++
      Text.quotedList known
  | notProfile tag typeName =>
    "Profile for '" ++ tag ++ "' must be a LanguageProfile, got " ++ typeName
  | fileMissing path => "Configuration file not found" ++ inFile path
  | fileIllFormed path => "Invalid TOML syntax: <detail>" ++ inFile path
  | fileUnreadable path => "Could not read configuration file: <detail>" ++ inFile path
  | sectionNotTable name typeName =>
    "Section '[" ++ name ++ "]' must be a table, got " ++ typeName
  | languageNotTable tag path => "Language '" ++ tag ++ "' must be a table" ++ inFile path
  | unknownKeys tag keys allowed =>
    "Unknown keys for language '" ++ tag ++ "': " ++ Text.quotedList keys ++ ". Allowed: " ++
      Text.quotedList allowed
  | timeoutText text => "TESTATPOINT_TIMEOUT must be an integer, got '" ++ text ++ "'"
  | badValue why path => "Invalid configuration value: " ++ why.message ++ inFile? path
  | badType path => "Invalid configuration value: <TypeError>" ++ inFile? path
  | noTemplates => "No command templates configured"
  | unknownStrategy name language known =>
    "Unknown context strategy '" ++ name ++ "' for language '" ++ language ++ "'. Available: " ++
      Text.quotedList known
  | unknownDirectory strategy known =>
    "Invalid cwd strategy '" ++ strategy ++ "'. Must be one of " ++ Text.quotedList known ++ "."
  | unknownOutput mode known =>
    "Unsupported output mode: '" ++ mode ++ "'. Available modes: " ++ Text.quotedList known
  | unknownKind file => "Cannot determine the file type of '" ++ file ++ "'"

end Misconfigured

/-- A step that a job's life does not allow. -/
inductive IllegalStep where
  /-- A move between two states. -/
  | move (source target test : String)
  /-- A second dispatch. -/
  | dispatched (test state : String)
  deriving DecidableEq, Repr

/-- What the illegal step was. -/
def IllegalStep.message : IllegalStep → String
  | move source target test =>
    "Illegal job transition " ++ source ++ " -> " ++ target ++ " for '" ++ test ++ "'"
  | dispatched test state =>
    "Job for '" ++ test ++ "' was already dispatched (" ++ state ++ ")"

/-- An error, by its cause. -/
inductive Error where
  | misconfigured (why : Misconfigured)
  /-- A pattern that is none, in the profile of a language if there is one. -/
  | pattern (fault : Pattern.Fault) (language : Option String)
  /-- A command template that leaves no word. -/
  | emptyCommand (template : String)
  | illegalStep (step : IllegalStep)
  | unfit (value : Unfit)
  /-- A batch target that names no file and line. -/
  | badTarget (target : String)
  /-- A value of the wrong type. -/
  | wrongType
  /-- A value that lacks what was asked of it. -/
  | noSuchPart
  | missingKey
  | outOfRange
  | overflow
  | fileMissing
  | isDirectory
  | notDirectory
  | noLoop
  /-- A text whose digits are no number. -/
  | noNumber
  /-- A text that cannot be read as markup. -/
  | noMarkup
  /-- Bytes that are no text. -/
  | notText
  /-- An entry that is no pair of a key and a value. -/
  | noPair
  deriving Repr

namespace Error

/-- What went wrong, for the errors that say so. -/
def message? : Error → Option String
  | misconfigured why => some why.message
  | pattern fault language =>
    some ((match language with
      | some tag => "[" ++ tag ++ "] "
      | none => "") ++ fault.message)
  | emptyCommand template =>
    some ("Command template '" ++ template ++ "' expanded to an empty command")
  | illegalStep step => some step.message
  | unfit value => some value.message
  | badTarget target =>
    some ("Invalid value for TARGETS: '" ++ target ++ "' is not of the form FILE:LINE")
  | _ => none

/-- What went wrong, or nothing. -/
def message (e : Error) : String := e.message?.getD ""

/-- The error that a faulty pattern raises. -/
def ofPattern (f : Pattern.Fault) : Error :=
  match f with
  | .tooManyRounds => overflow
  | .conflictingAlphabets => unfit .alphabets
  | .longNumber digits => unfit (.longNumber digits)
  | f => pattern f none

/-- Is the error one of configuration? -/
def isConfiguration : Error → Bool
  | misconfigured _ | pattern .. => true
  | _ => false

/-- Is the error one of building a command? -/
def isBuild : Error → Bool
  | emptyCommand _ => true
  | _ => false

/-- Is the error that of a value outside its domain? -/
def isUnfit : Error → Bool
  | unfit _ | noNumber | notText | noPair => true
  | _ => false

end Error

end Proctor
