import KSlide.Conflict.Records
import KSlide.Json.Conversions
import KSlide.Json.Lines
import KSlide.Text.Unicode

/-
This file gives the events of a model run and their normal form.
-/

namespace KSlide
namespace Events
open Python

/-- A line that is no JSON object is a human log line. -/
def readEvent (line : List Char) : Option Json :=
  let candidate := Text.strip line
  if candidate.head? = some '\x7b' then (Json.loads candidate).filter Json.isObject else none

def parseJsonEvents (output : List Char) : List Json :=
  (Text.splitLines output).filterMap readEvent

section
variable [Printing] [Unicode]

def toolEventTypes : List String :=
  ["tool", "tool_call", "tool_use", "tool_start", "tool_end", "tool_result", "function_call",
   "function_result"]

def forbiddenToolNames : List String :=
  ["bash", "shell", "edit", "write", "task", "subagent", "webfetch", "websearch"]

/-- The name of a type is compared in lower case with underscores. -/
def typeName (value : Json) : String :=
  String.ofList ((Unicode.lower (str value).toList).map fun letter =>
    if letter = '-' then '_' else letter)

def eventType (value : Json) : String :=
  let raw := if (value.field "type").truthy then value.field "type"
    else if (value.field "event").truthy then value.field "event"
    else if (value.field "kind").truthy then value.field "kind"
    else .str "unknown"
  typeName raw

def stateOf (part : Json) : List Json :=
  if (part.field "state").isObject then [part.field "state"] else []

/-- The event is wrapped in other objects, which may have a state. -/
def candidateParts (value : Json) : List Json :=
  value :: ["part", "data", "message", "payload", "event"].flatMap (fun key =>
    if (value.field key).isObject then value.field key :: stateOf (value.field key) else []) ++
    stateOf value

def textOf? : Json → Option String
  | .str text => some text
  | _ => none

def functionName (part : Json) : Option String :=
  if (part.field "function").isObject then textOf? ((part.field "function").field "name") else none

def toolNameOf (candidate : Json) : Option String :=
  match candidate.field "tool", candidate.field "tool_name" with
  | .str name, _ => some name
  | _, .str name => some name
  | _, _ => functionName candidate

def partType (part : Json) : String := typeName ((part.get? "type").getD (.str ""))

def isToolPart (kind : String) (part : Json) : Bool :=
  toolEventTypes.elem kind || toolEventTypes.elem (partType part)

/-- The first part that names a tool is the candidate. -/
def toolCandidate (value : Json) (kind : String) : Option Json :=
  (candidateParts value).find? fun part => isToolPart kind part && (toolNameOf part).isSome

end

section
variable [Printing]

def jsonValue : Json → Json
  | .str text => (Json.loads text.toList).getD (.str text)
  | value => value

/-- The first of the keys that is present gives the value. -/
def firstPresent (value : Json) (keys : List String) : Json :=
  (keys.findSome? value.get?).getD .null

def rawArguments (candidate : Json) : Json :=
  let direct := firstPresent candidate ["arguments", "args", "input"]
  let called := if direct = .null then (candidate.field "function").field "arguments" else direct
  if called = .null ∧ (candidate.field "state").isObject = true then
    firstPresent (candidate.field "state") ["input", "arguments", "args"]
  else called

def toolArguments (candidate : Json) : Option Json :=
  match rawArguments candidate with
  | .null => none
  | value =>
    let parsed := jsonValue value
    some (if parsed.isObject then parsed else .obj [("value", parsed)])

def toolResult (candidate : Json) : Json :=
  let state := candidate.field "state"
  match candidate.get? "output", candidate.get? "result", state.get? "output",
      state.get? "result" with
  | some value, _, _, _ => jsonValue value
  | _, some value, _, _ => jsonValue value
  | _, _, some value, _ => jsonValue value
  | _, _, _, some value => jsonValue value
  | _, _, _, _ => .null

def printed? : Json → Option String
  | .null => none
  | value => some (str value)

def toolStatus (candidate : Json) : Option String :=
  let raw := candidate.field "status"
  printed? (if raw = .null ∧ (candidate.field "state").isObject = true then
    (candidate.field "state").field "status" else raw)

def callId (candidate : Json) : Option String :=
  ["callID", "call_id", "id", "tool_call_id"].findSome? fun key => printed? (candidate.field key)

/-- An event keeps its structured fields. -/
structure NormalizedEvent where
  eventType : String
  sessionId : Option String
  messageId : Option String
  role : Option String
  toolName : Option String
  toolCallId : Option String
  toolArguments : Option Json
  toolResult : Json
  toolStatus : Option String
  text : Option String
  timestamp : Json

variable [Unicode]

def normalizeEvent (value : Json) : NormalizedEvent :=
  let kind := eventType value
  let candidate := toolCandidate value kind
  { eventType := kind
    sessionId := printed? (firstPresent value ["sessionID", "session_id"])
    messageId := printed? (firstPresent value ["messageID", "message_id"])
    role := printed? (value.field "role")
    toolName := candidate.bind toolNameOf
    toolCallId := candidate.bind callId
    toolArguments := candidate.bind toolArguments
    toolResult := (candidate.map toolResult).getD .null
    toolStatus := candidate.bind toolStatus
    text := (textOf? (value.field "text")).or (textOf? ((value.field "part").field "text"))
    timestamp := if (value.field "timestamp").truthy then value.field "timestamp"
      else value.field "time" }

def normalizeEvents (events : List Json) : List NormalizedEvent := events.map normalizeEvent

def isForbidden (name : String) : Bool :=
  forbiddenToolNames.elem (String.ofList (Unicode.lower name.toList))

def forbiddenToolAttempts (events : List NormalizedEvent) : List String :=
  sortedSet ((events.filterMap (·.toolName)).filter isForbidden)

end
end Events
end KSlide
