import Localize.Log.Message
import Localize.Unicode.LowerCase
import Localize.Value.Arguments

/-!
# Log records

There are two kinds of record.  An *event* has a name and fields, and this library logs nothing
else.  A *message* is a text with arguments, and may carry fields beside; it comes from elsewhere.
Both have a level and the name of a logger.

A call that asks for a record may be refused (`CallError`): it may use a level that has no name, an
argument that does not fit, or a field that every record has anyway.

`Record.entry` is what is written of a record: its event, its fields, what is known of the run, and
the level, the logger and the time.
-/

set_option autoImplicit false

namespace Localize

namespace Level

/-- For every single nugget. -/
def debug : Int := 10

/-- For what the library does. -/
def info : Int := 20

/-- For what a build does. -/
def human : Int := 25

/-- For trouble that a build survives. -/
def warning : Int := 30

/-- For trouble that it does not. -/
def error : Int := 40

/-- The levels that have names. -/
def names : List (Int × Text) := [
  (10, "debug"), (20, "info"), (25, "human"), (30, "warning"), (40, "error"), (50, "critical")]

/-- The name of a level, or its number. -/
def shown (level : Int) : Text :=
  match names.lookup level with
  | some name => name
  | none => "level " ++ Text.ofInt level

end Level

/-- What a record says. -/
inductive Content
  | event (name : Value) (fields : Arguments)
  | message (text : Value) (args : List Value) (extra : Arguments)

/-- A log record. -/
structure Record where
  logger : Text
  level : Int
  content : Content

/-- A logger, and the level from which it listens; zero leaves it at the level of all loggers. -/
structure Logger where
  name : Text
  threshold : Int := Level.debug

/-- Why a call makes no record. -/
inductive CallError
  | argument (e : ArgumentError)
  | noMethod (name : Text)
  | unknownLevel (level : Int)
  | reserved (name : Text)
deriving DecidableEq, Repr

/-- What is said of a call that makes no record. -/
def CallError.message : CallError → Text
  | argument e => e.message
  | noMethod name => "'HumanLog' object has no attribute '" ++ name ++ "'"
  | unknownLevel level => Text.ofInt level
  | reserved name => ("Attempt to overwrite '" ++ name ++ "' in LogRecord" : Text).quoted

namespace Logger

/-! ## Calls -/

/-- The logger listens at a level.  At zero and below nobody does. -/
def listens (l : Logger) (level : Int) : Bool :=
  0 < level && (if l.threshold = 0 then Level.debug else l.threshold) ≤ level

/-- The record of something at a level at which the logger listens. -/
def record? (l : Logger) (level : Int) (content : Content) : Option Record :=
  if l.listens level then some ⟨l.name, level, content⟩ else none

/-- Logs an event. -/
def event (l : Logger) (level : Int) (name : Value) (fields : Arguments) :
    Except CallError (Option Record) := do
  (fields.checkPlaced "BoundLogger.log" ["self", "level", "event"]).mapError .argument
  if (Level.names.lookup level).isNone then throw (.unknownLevel level)
  else
    (fields.checkPlaced "BoundLogger._proxy_to_logger" ["method_name"]).mapError .argument
    return l.record? level (.event name fields)

/-- What every record of a message has. -/
def attributes : List Text := [
  "name", "msg", "args", "levelname", "levelno", "pathname", "filename", "module", "exc_info",
  "exc_text", "stack_info", "lineno", "funcName", "created", "msecs", "relativeCreated", "thread",
  "threadName", "processName", "process"]

/-- Names that no field of a message may have. -/
def reservedNames : List Text := "message" :: "asctime" :: attributes

/-- Logs a message.  Its fields are looked at only if the logger listens. -/
def message (l : Logger) (level : Int) (text : Value) (args : List Value) (extra : Arguments) :
    Except CallError (Option Record) :=
  match l.record? level (.message text args extra) with
  | none => .ok none
  | some record =>
    match extra.find? fun (name, _) => name ∈ reservedNames with
    | some (name, _) => .error (.reserved name)
    | none => .ok (some record)

/-- The events that a build tells people about: how each is called, its name, and its fields. -/
def humanCalls : List (Text × Text × List Text) := [
  ("catalog_loaded", "catalog.loaded", ["path", "entries"]),
  ("default_pass", "catalog.default_pass", ["locale"]),
  ("lookup_written", "catalog.lookup_written", ["path"]),
  ("asset_rewritten", "asset.rewritten", ["asset", "nuggets", "translated"]),
  ("missing_translation", "translation.missing", ["asset", "key", "locale"]),
  ("build_complete", "build.complete", ["assets", "rewritten", "warnings"])]

/-- The call that takes the name of an event as an argument and passes the other arguments on. -/
def anyEvent : Text := "_emit"

/-- Logs an event that a build tells people about. -/
def humanCall (l : Logger) (call : Text) (args : Arguments) : Except CallError (Option Record) := do
  let callee := "HumanLog." ++ call
  if call = anyEvent then
    (args.checkPlaced callee ["self"]).mapError .argument
    match args.get? "event" with
    | none => throw (.argument (.missing callee ["event"]))
    | some event =>
      l.event Level.human event (args.filter fun (name, _) => name ≠ ("event" : Text))
  else
    match humanCalls.lookup call with
    | none => throw (.noMethod call)
    | some (event, names) =>
      (args.check callee names []).mapError .argument
      let fields := names.map fun name => (name, (args.get? name).getD .null)
      return l.record? Level.human (.event event fields)

end Logger

namespace Record

/-! ## Entries -/

/-- The text of a message with its arguments. -/
def messageText? (text : Value) (args : List Value) : Option Text := Message.text? text.shown args

/-- Gives a field a value; a field that is there keeps its place. -/
def assign (name : Text) (value : Value) : Arguments → Arguments
  | [] => [(name, value)]
  | (n, v) :: rest => if n = name then (n, value) :: rest else (n, v) :: assign name value rest

/-- Gives a field a value unless it has one. -/
def supply (fields : Arguments) (field : Text × Value) : Arguments :=
  if (fields.get? field.1).isSome then fields else fields ++ [field]

/-- What is written of a record, given what is known of the run and the time.  A message that does
not fit its arguments cannot be written. -/
def entry? (r : Record) (context : Arguments) (time : Text) : Option Arguments := do
  let told : Arguments ←
    match r.content with
    | .event name fields =>
      some (assign "event" name
        (fields.filter fun (name, _) => name ∉ (["stack_info", "exc_info"] : List Text)))
    | .message text args _ =>
      (messageText? text args).map fun t => ([("event", .text t)] : Arguments)
  return context.foldl supply told
    |> assign "level" (.text (Level.shown r.level))
    |> assign "logger" (.text r.logger)
    |> assign "timestamp" (.text time)

/-! ## For people -/

/-- A name that is not that of an attribute of every record. -/
def isOwn (name : Text) : Bool :=
  let others : List Text := ["message", "taskName", "event"]
  !(Text.startsWith "_" name) && name ∉ Logger.attributes && name ∉ others

/-- The fields of a message that are not attributes of every record. -/
def ownFields (extra : Arguments) : Arguments := extra.filter fun (name, _) => isOwn name

/-- The name of an event among what is told of it, and the rest of that. -/
def takeEvent (told : Arguments) : Text × Arguments :=
  (match told.get? "event" with
  | some v => v.shown
  | none => [],
  told.filter fun (name, _) => name ≠ ("event" : Text))

/-- The name of the event that a record of any kind is about, and its fields.  An event comes as
its entry, and so may a message that is a mapping. -/
def asEvent? (r : Record) (context : Arguments) (time : Text) : Option (Text × Arguments) :=
  match r.content with
  | .event .. => (r.entry? context time).map takeEvent
  | .message (.map entries) _ _ => some (takeEvent (Value.fields entries))
  | .message text args extra =>
    match extra.get? "event" with
    | some (.text (c :: t)) => some (c :: t, ownFields extra)
    | some v => if v.truthy then none else (messageText? text args).map (·, ownFields extra)
    | none => (messageText? text args).map (·, ownFields extra)

end Record

end Localize
