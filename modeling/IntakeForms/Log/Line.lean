import IntakeForms.Json.Writer
import IntakeForms.Log
import IntakeForms.Log.Message
import IntakeForms.Time.Elapsed

/-!
A log record as one line of JSON.  The standard fields come first, then the facts
of the record in their order; a fact with the name of a field takes its place.
Facts named like an inner attribute of a record are not written, and those that
name one of its visible attributes replace it.
-/

namespace IntakeForms.Log

/-- What is to be told; `thrown` is the whole text of what was thrown. -/
structure Record where
  logger : String
  level : Level
  file : String
  line : Int
  function : Option String
  pattern : String
  arguments : List Value
  created : Value
  facts : List (String × Value)
  thrown : Option String

namespace Record

def attributes : List String :=
  ["name", "msg", "args", "levelname", "levelno", "pathname", "filename", "module", "exc_info",
    "exc_text", "stack_info", "lineno", "funcName", "created", "msecs", "relativeCreated",
    "thread", "threadName", "processName", "process", "message", "asctime"]

def isHidden (name : String) : Bool := name ∈ attributes || name.toList.head? = some '_'

def replaced (r : Record) (name : String) (own : Value) : Value :=
  (Entries.get? name r.facts).getD own

end Record

def moduleOf (file : String) : String :=
  let base := (file.toList.reverse.takeWhile (· != '/')).reverse
  let stem := ((base.reverse.dropWhile (· != '.')).drop 1).reverse
  String.ofList (if stem.any (· != '.') then stem else base)

def microsOf : Value → Except Unfit Int
  | .int n => .ok (n * 1000000)
  | .bool b => .ok (if b then 1000000 else 0)
  | .real x =>
    if x.isNaN then .error .illFormed
    else if x.isInfinite then .error .outOfRange
    else .ok x.microseconds
  | _ => .error .wrongKind

def isOnClock (seconds : Int) : Bool :=
  -67768040609740800 ≤ seconds && seconds ≤ 67768036191676799

def isInCalendar (seconds : Int) : Bool := -62135596800 ≤ seconds && seconds < 253402300800

def momentOf (created : Value) : Except Unfit Timestamp := do
  let us ← microsOf created
  let seconds := us / 1000000
  if seconds < -0x8000000000000000 ∨ 0x8000000000000000 ≤ seconds then .error .outOfRange
  else if !isOnClock seconds then .error .beyondClock
  else if !isInCalendar seconds then .error .illFormed
  else return Timestamp.ofMicros us

def Record.values (r : Record) : Arguments :=
  match Entries.get? "args" r.facts with
  | some v => .one v
  | none => .ofList r.arguments

def misplaced : Value → Unfit
  | .text s => if s.length < 3 then .noItem else .noPart
  | .list vs => if vs.length < 3 then .noItem else .noPart
  | .map _ => .noKey
  | _ => .wrongKind

def Record.thrownField (r : Record) : Except Unfit (List (String × Value)) :=
  match r.thrown with
  | some text => .ok [("exception", .text text)]
  | none =>
    let v := r.replaced "exc_info" .null
    if v.truthy then .error (misplaced v) else .ok []

def Record.patternText (b : Json.Bounds) (r : Record) : Except Unfit String := do
  let v := r.replaced "msg" (.text r.pattern)
  tell b v
  return v.display

def fields (b : Json.Bounds) (r : Record) (requestId : Option String) :
    Except Unfit (List (String × Value)) := do
  let moment ← momentOf (r.replaced "created" r.created)
  let message ← message b (← r.patternText b) r.values
  let standard : List (String × Value) :=
    [("timestamp", .text (moment.isoPlain 'T')),
      ("severity", r.replaced "levelname" (.text r.level.name)),
      ("message", .text message),
      ("logger", r.replaced "name" (.text r.logger)),
      ("module", r.replaced "module" (.text (moduleOf r.file))),
      ("function", r.replaced "funcName" (.optText r.function)),
      ("line", r.replaced "lineno" (.int r.line))]
  let request := match requestId with
    | some id => if id.isEmpty then [] else [("request_id", Value.text id)]
    | none => []
  let facts := r.facts.filter fun (name, _) => !Record.isHidden name
  return Entries.putAll (standard ++ request) (facts ++ (← r.thrownField))

def unfit : Json.Unwritten → Unfit
  | .formless => .wrongKind
  | .tooManyDigits => .illFormed
  | .tooDeep => .tooDeep

def line (b : Json.Bounds) (r : Record) (requestId : Option String) : Except Unfit String := do
  let written := Value.object (← fields b r requestId)
  (Json.text? .line b written).mapError unfit

end IntakeForms.Log
