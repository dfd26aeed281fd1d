import Turtle.Datum
import Turtle.Command.Basic

/-!
# Faults

Every way a request to the library can fail, as a cause with the data that explains it.
`Fault.message` words each cause; the wording is part of the library's output.
-/

namespace Turtle

/-- The notification channels of a run whose listeners can fail. -/
inductive Channel where
  | pose
  | path
  | state
deriving Repr, DecidableEq

/-- The shapes a command can be built as. -/
inductive Form where
  | move
  | turn
  | block
deriving Repr, DecidableEq

/-- The name of a form in messages. -/
def Form.name : Form → String
  | .move => "Move"
  | .turn => "Turn"
  | .block => "Repeat"

/-- Why a request failed. -/
inductive Fault where
  /-- a command was built with a kind that is no kind -/
  | unknownKind (kind : Datum)
  /-- a move or turn was built with the kind of another form -/
  | wrongKind (form : Form) (kind : Kind)
  /-- a command parameter is not an integer -/
  | notInteger (value : Datum)
  /-- a repeat count is negative -/
  | negativeCount (count : Int)
  /-- a kind was asked for by a datum that names no kind -/
  | notAKind (kind : Datum)
  /-- a datum cannot be compared with the integer zero -/
  | notComparable (value : Datum)
  /-- the container addressed for an insertion is not a block -/
  | notAContainer (id : String) (kind : Kind)
  /-- no command has the container's identifier -/
  | containerNotFound (id : String)
  /-- an inserted identifier is already in the program -/
  | duplicateId (id : String)
  /-- an integer is too large for a double -/
  | tooLargeForDouble
  /-- an infinity has no integer value -/
  | infiniteToInteger
  /-- NaN has no integer value -/
  | nanToInteger
  /-- a double was divided by zero -/
  | divisionByZero
  /-- a listener of a run's notifications failed -/
  | listenerFailed (channel : Channel)
  /-- a setting that does not exist was given -/
  | unknownSetting (name : String)
  /-- a call got an argument by name that it already binds itself -/
  | repeatedArgument (call : String) (name : String)
  /-- a table was to be joined from no tables -/
  | nothingToJoin
  /-- a log level name that is no level -/
  | unknownLevel (name : String)
  /-- a log level that is neither a number nor a name -/
  | notALevel (written : String)
  /-- a picture panel collapsed to no width had to be mapped back to data -/
  | singularMatrix
  /-- a level was asked for by a name the logging library does not export -/
  | noSuchExport (name : String)
  /-- a library export was asked for by a datum of this type, which is no text -/
  | attributeNotText (typeName : String)
  /-- a container of this type was used as a key -/
  | unhashable (typeName : String)
  /-- a title's math markup does not parse; the report says where and why -/
  | badMarkup (report : String)
  /-- an automatically sized delimiter pair held only middle delimiters, so no height to size by -/
  | noDelimiterHeight
  /-- an automatically sized delimiter pair kept a middle delimiter as text among its boxes -/
  | delimiterLeftAsText
  /-- an axis of a picture would reach beyond the largest double -/
  | limitsNotFinite
  /-- a run of integers between bounds that are not numbers -/
  | rangeUnknown
  /-- a run of integers longer than a machine word can count -/
  | rangeOverflow
  /-- a pause went on forever: no stop was requested, and no time remaining is at most its poll
  interval -/
  | pauseNeverEnds
  /-- an attribute was read off the none a refused call returned in place of a command -/
  | attributeOfNone (name : String)
deriving Inhabited

/-- The channel's word in messages. -/
def Channel.name : Channel → String
  | .pose => "pose"
  | .path => "path"
  | .state => "state"

/-- The text of a fault. -/
def Fault.message : Fault → String
  | .unknownKind k => "Unknown command kind " ++ k.display
  | .wrongKind f k => f.name ++ " cannot have kind " ++ k.name
  | .notInteger v => "Command value must be an int, got " ++ v.display
  | .negativeCount n => "Repeat count must be >= 0, got " ++ toString n
  | .notAKind k => k.display ++ " is not a valid CommandType"
  | .notComparable v =>
    "'>' not supported between instances of 'int' and '" ++ v.typeName ++ "'"
  | .notAContainer i k => "Invalid container '" ++ i ++ "': " ++ k.name ++ " cannot hold commands"
  | .containerNotFound i => "Invalid container '" ++ i ++ "': not found"
  | .duplicateId i => "Command id '" ++ i ++ "' already exists in the program"
  | .tooLargeForDouble => "int too large to convert to float"
  | .infiniteToInteger => "cannot convert float infinity to integer"
  | .nanToInteger => "cannot convert float NaN to integer"
  | .divisionByZero => "float division by zero"
  | .listenerFailed c => c.name ++ " listener failed"
  | .unknownSetting n => "RunConfig.__init__() got an unexpected keyword argument '" ++ n ++ "'"
  | .repeatedArgument c n => c ++ " got multiple values for argument '" ++ n ++ "'"
  | .nothingToJoin => "No objects to concatenate"
  | .unknownLevel n => "Unknown level: " ++ Text.quoted n
  | .notALevel w => "Level not an integer or a valid string: " ++ w
  | .singularMatrix => "Singular matrix"
  | .noSuchExport n => "module 'logging' has no attribute '" ++ n ++ "'"
  | .attributeNotText t => "attribute name must be string, not '" ++ t ++ "'"
  | .unhashable t => "unhashable type: '" ++ t ++ "'"
  | .badMarkup r => r
  | .noDelimiterHeight => "max() arg is an empty sequence"
  | .delimiterLeftAsText => "'str' object has no attribute 'get_kerning'"
  | .limitsNotFinite => "Axis limits cannot be NaN or Inf"
  | .rangeUnknown => "arange: cannot compute length"
  | .rangeOverflow => "arange: overflow while computing length"
  | .pauseNeverEnds => "pause never returns"
  | .attributeOfNone n => "'NoneType' object has no attribute '" ++ n ++ "'"

/-- The fault of a double without an integer value. -/
def Fault.ofNonFinite : NonFinite → Fault
  | .nan => .nanToInteger
  | .infinite => .infiniteToInteger

end Turtle
