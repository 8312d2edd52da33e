import TokenliveGateway.MessagesResponsesStream
import TokenliveGateway.ToolNameMapper

/-!
# Responses requests as Chat requests

`ResponsesRequestToChat` turns the decoded body of a Responses request into the messages
and the tools of a Chat request. Calls wait in a round until it is closed; then one
assistant message with all of them is sent, followed by their outputs. `json.Marshal` is a
parameter.
-/
namespace TokenliveGateway
open GoStrings KeyedEntries

/-- `value == nil`. -/
def Json.isNull : Json → Bool
  | null => true
  | _ => false

namespace Fields

/-- `v, ok := m[key].([]interface{})`. -/
def array? (m : Fields) (key : String) : Option (List Json) :=
  match m.lookup key with
  | some (.array items) => some items
  | _ => none

/-- `delete(m, key)`. -/
def delete (m : Fields) (key : String) : Fields := m.filter fun field => field.1 ≠ key

/-- `m[key] = value`. -/
def put (m : Fields) (key : String) (value : Json) : Fields := (key, value) :: m.delete key

/-- The fields of `m`, and those of `other` that it does not have. -/
def orElse (m other : Fields) : Fields :=
  m ++ other.filter fun field => (m.lookup field.1).isNone

variable {key other : String} (m : Fields)

lemma lookup_delete_of_ne (h : other ≠ key) : (m.delete key).lookup other = m.lookup other :=
  lookup_filter_of_ne h

@[simp] lemma str_delete_of_ne (h : other ≠ key) : (m.delete key).str other = m.str other := by
  rw [str, lookup_delete_of_ne m h, str]

lemma lookup_put_of_ne (val : Json) (h : other ≠ key) :
    (m.put key val).lookup other = m.lookup other :=
  (lookup_cons_of_ne h).trans (lookup_delete_of_ne m h)

end Fields

/-! ## Messages -/

structure ChatToolCall where
  id : String
  name : String
  arguments : String
  deriving DecidableEq

/-- The `tool_calls` of a message: those of a round, or what the client has put there. -/
inductive ChatToolCalls where
  | answered (calls : List ChatToolCall)
  | given (value : Json)

/-- A message of the Chat request; an empty name or id is absent. -/
structure ChatMessage where
  role : String
  content : Option String := none
  name : String := ""
  toolCallID : String := ""
  toolCalls : Option ChatToolCalls := none
  reasoningContent : Option String := none

def ChatMessage.calls (m : ChatMessage) : List ChatToolCall :=
  match m.toolCalls with
  | some (.answered calls) => calls
  | _ => []

def applyAssistantReasoning (m : ChatMessage) (text : String) (enabled : Bool) : ChatMessage :=
  if m.role ≠ "assistant" then m
  else if text ≠ "" then { m with reasoningContent := some text }
  else if enabled ∧ m.reasoningContent = none then { m with reasoningContent := some "" }
  else m

/-! ## Items of the input -/

/-- An item of the input, with what is read of an item of its type. -/
inductive HistoryItem where
  | reasoning (text : String)
  | call (custom : Bool) (callID name toolNamespace arguments : String)
  | output (callID text : String)
  | message (role text name toolCallID : String) (toolCalls : Option Json)

def responseItemCallID (item : Fields) : String :=
  if item.str "call_id" = "" then item.str "id" else item.str "call_id"

def reasoningPartsText (parts : List Json) : String :=
  .join (parts.map fun
    | .object part => Fields.str part "text"
    | .str value => value
    | _ => "")

def extractReasoningSummary (item : Fields) : String :=
  let parts := ((item.array? "summary").map reasoningPartsText).getD ""
  if parts ≠ "" then parts
  else
    match [item.str "summary", item.str "reasoning_content", item.str "text"].find? (· ≠ "") with
    | some text => text
    | none => ((item.array? "content").map reasoningPartsText).getD ""

def messageItemText (item : Fields) : String :=
  match item.lookup "content" with
  | some (.str text) => text
  | some (.array parts) =>
    .join (parts.map fun
      | .object part =>
        ([Fields.str part "text", Fields.str part "input_text", Fields.str part "value"].find?
          (· ≠ "")).getD ""
      | _ => "")
  | _ => ""

def functionCallOutputText (marshal : Json → String) (item : Fields) : String :=
  match item.lookup "output" with
  | none => ""
  | some (.str text) => text
  | some (.array blocks) =>
    let text : String := .join (blocks.map fun
      | .object block => Fields.str block "text"
      | _ => "")
    if text = "" then marshal (.array blocks) else text
  | some value => marshal value

def readItem (marshal : Json → String) : Json → Option HistoryItem
  | .object item =>
    let type := Fields.str item "type"
    if type = "reasoning" then some (.reasoning (extractReasoningSummary item))
    else if type = "function_call" then
      some (.call false (responseItemCallID item) (Fields.str item "name")
        (Fields.str item "namespace") (Fields.str item "arguments"))
    else if type = "custom_tool_call" then
      some (.call true (responseItemCallID item) (Fields.str item "name")
        (Fields.str item "namespace")
        (marshal (.object [("patch", .str (Fields.str item "input"))])))
    else if type = "function_call_output" ∨ type = "custom_tool_call_output" then
      some (.output (responseItemCallID item) (functionCallOutputText marshal item))
    else
      some (.message (Fields.str item "role") (messageItemText item) (Fields.str item "name")
        (Fields.str item "tool_call_id") (item.lookup "tool_calls"))
  | _ => none

/-! ## The rounds -/

/-- The state of the pass that assembles the messages. -/
structure Assembly where
  messages : List ChatMessage := []
  pendingToolCalls : List ChatToolCall := []
  pendingToolText : String := ""
  pendingAnswered : List String := []
  pendingReasoning : String := ""
  mapper : ToolNameMapper := {}

/-- The first pass: the outputs by call id. Of several outputs with one id the last is kept. -/
def toolOutputs (items : List HistoryItem) : List (String × String) :=
  items.foldl (fun outputs item =>
    match item with
    | .output callID text => if callID = "" then outputs else (callID, text) :: outputs
    | _ => outputs) []

def HistoryItem.isReasoning : HistoryItem → Bool
  | reasoning _ => true
  | _ => false

/-- What the second pass reads: the outputs, none of them without an id, and whether
assistant messages carry reasoning. -/
structure History where
  toolOutputs : List (String × String)
  inThinkingMode : Bool
  named : toolOutputs.lookup "" = none

lemma mem_toolOutputs (items : List HistoryItem) (callID text : String) :
    (callID, text) ∈ toolOutputs items ↔ callID ≠ "" ∧ .output callID text ∈ items := by
  unfold toolOutputs
  induction items using List.reverseRecOn with
  | nil => simp
  | append_singleton items item ih =>
    rw [List.foldl_append, List.foldl_cons, List.foldl_nil]
    cases item with
    | output id out =>
      dsimp only
      split_ifs with he
      · rw [ih]
        aesop
      · rw [List.mem_cons, ih]
        aesop
    | reasoning _ => simpa using ih
    | call _ _ _ _ _ | message _ _ _ _ _ => simpa using ih

lemma lookup_toolOutputs_empty (items : List HistoryItem) :
    (toolOutputs items).lookup "" = none := by
  by_contra hn
  obtain ⟨text, ht⟩ := Option.ne_none_iff_exists'.mp hn
  exact ((mem_toolOutputs items "" text).mp (mem_of_lookup ht)).1 rfl

/-- The first pass. -/
def History.ofItems (hasReasoningConfig : Bool) (items : List HistoryItem) : History where
  toolOutputs := TokenliveGateway.toolOutputs items
  inThinkingMode := hasReasoningConfig || items.any HistoryItem.isReasoning
  named := lookup_toolOutputs_empty items

namespace Assembly
variable (h : History)

def toolMessage (call : ChatToolCall × String) : ChatMessage where
  role := "tool"
  toolCallID := call.1.id
  content := some call.2

/-- The pending calls that have an output, with it. -/
def answered (calls : List ChatToolCall) : List (ChatToolCall × String) :=
  calls.filterMap fun tc =>
    if tc.id = "" then none else (h.toolOutputs.lookup tc.id).map fun output => (tc, output)

def flushPendingToolCalls (s : Assembly) : Assembly :=
  if s.pendingToolCalls = [] then s
  else
    let answered := answered h s.pendingToolCalls
    let s := { s with
      pendingToolCalls := []
      pendingAnswered := s.pendingAnswered ++ answered.map fun call => call.1.id }
    if answered = [] then s
    else
      let msg := applyAssistantReasoning
        { role := "assistant"
          toolCalls := some (.answered (answered.map Prod.fst))
          content := if s.pendingToolText = "" then none else some s.pendingToolText }
        s.pendingReasoning h.inThinkingMode
      { s with
        messages := s.messages ++ msg :: answered.map toolMessage
        pendingToolText := ""
        pendingReasoning := "" }

/-- A `function_call` or `custom_tool_call` item; without output it is dropped. -/
def addCall (custom : Bool) (callID name toolNamespace arguments : String) (s : Assembly) :
    Assembly :=
  if h.toolOutputs.lookup callID = none then s
  else
    let registered := if toolNamespace = "" then (name, s.mapper)
      else s.mapper.sanitizeAndRegister (toolNamespace, name)
    { s with
      mapper := if custom then registered.2.registerCustom registered.1 else registered.2
      pendingToolCalls := s.pendingToolCalls ++ [⟨callID, registered.1, arguments⟩] }

/-- The role of a message in the Chat request. -/
def openAIRole (role : String) : String :=
  if role = "developer" ∨ role = "system" then "system"
  else if role = "" then "user"
  else role

/-- `strings.TrimSpace(text) == ""`. -/
def isBlank (text : String) : Bool :=
  text.toList.all fun c =>
    c ∈ ['\t', '\n', '\x0b', '\x0c', '\r', ' ', '\u0085', '\u00a0', '\u1680', '\u2028',
      '\u2029', '\u202f', '\u205f', '\u3000'] || ('\u2000' ≤ c && c ≤ '\u200a')

/-- A message outside of an open round. -/
def sendMessage (role text name toolCallID : String) (toolCalls : Option Json) (s : Assembly) :
    Assembly :=
  let role := openAIRole role
  -- empty assistant messages are left out
  if role = "assistant" ∧ isBlank text = true ∧ (toolCalls.getD .null).isNull = true then s
  else
    let msg : ChatMessage :=
      { role := role
        content := some text
        name := name
        toolCallID := toolCallID
        toolCalls := toolCalls.map .given }
    if role = "assistant" then
      { s with
        messages := s.messages ++
          [applyAssistantReasoning msg s.pendingReasoning h.inThinkingMode]
        pendingReasoning := "" }
    else { s with messages := s.messages ++ [msg] }

/-- A message that closes the open round, or that is sent while none is open. -/
def Closes (s : Assembly) (role : String) (toolCalls : Option Json) : Prop :=
  toolCalls ≠ none ∨ role ≠ "assistant" ∨ s.pendingToolCalls = []

instance (s : Assembly) (role : String) (toolCalls : Option Json) :
    Decidable (Closes s role toolCalls) :=
  inferInstanceAs (Decidable (_ ∨ _ ∨ _))

def stepItem (s : Assembly) : HistoryItem → Assembly
  | .reasoning text => if text = "" then s else { s with pendingReasoning := text }
  | .call custom callID name toolNamespace arguments =>
    addCall h custom callID name toolNamespace arguments s
  | .output callID _ =>
    if callID = "" ∨ callID ∈ s.pendingAnswered ∨
        callID ∉ s.pendingToolCalls.map ChatToolCall.id then
      flushPendingToolCalls h s
    else s
  | .message role text name toolCallID toolCalls =>
    if Closes s role toolCalls then
      sendMessage h role text name toolCallID toolCalls (flushPendingToolCalls h s)
    else if text = "" then s
    else
      { s with
        pendingToolText :=
          (if s.pendingToolText = "" then "" else s.pendingToolText ++ "\n") ++ text }

/-- The second pass. -/
def assemble (s : Assembly) (items : List HistoryItem) : Assembly :=
  flushPendingToolCalls h (items.foldl (stepItem h) s)

end Assembly

/-! ## Tools -/

def builtinToolStandardFields : List (String × List String) :=
  [("web_search", ["search_context_size", "user_location", "filters"]),
    ("web_search_preview", ["search_context_size", "user_location", "filters"]),
    ("code_interpreter", ["container"]),
    ("image_generation", ["model", "size", "quality", "background", "output_format"]),
    ("file_search", ["vector_store_ids", "max_num_results", "filters", "ranking_options"]),
    ("computer_use_preview", ["display_width", "display_height", "environment"]),
    ("tool_search", ["query", "max_num_results", "filters"])]

/-- The standard form of a tool whose fields stand in an object of their own. -/
def nestedTool (toolType : String) (inner toolMap : Fields) : Option Fields :=
  let flatTool := (inner.orElse [("type", .str toolType)]).orElse
    (toolMap.filter fun field => field.1 ≠ "type" ∧ field.1 ≠ toolType)
  if toolType ∈ ["function", "mcp", "shell"] ∧ flatTool.str "name" = "" then none
  else some flatTool

/-- The parameters of `apply_patch`, if it comes without properties. -/
def patchParameters (flatTool : Fields) : Fields :=
  let params := (flatTool.object? "parameters").getD []
  if ((params.object? "properties").getD []).isEmpty then
    let patch : Json := .object
      [("type", .str "string"),
        ("description", .str "The full patch or diff content to apply to files.")]
    flatTool.put "parameters" (.object (((params.put "type" (.str "object")).put "properties"
      (.object [("patch", patch)])).put "required" (.array [.str "patch"])))
  else flatTool

def buildStandardTool (toolMap : Fields) : Option Fields :=
  if toolMap.str "type" = "" ∧ toolMap.str "name" = "" then none
  else
    let toolType := if toolMap.str "type" = "" then "function" else toolMap.str "type"
    let targetType := if toolType = "custom" then "function" else toolType
    if targetType ∉ ["function", "mcp", "shell"] then
      some (("type", .str targetType) ::
        ((builtinToolStandardFields.lookup targetType).getD []).filterMap fun field =>
          (toolMap.lookup field).map fun value => (field, value))
    else
      match toolMap.object? toolType with
      | some inner => nestedTool toolType inner toolMap
      | none =>
        let innerName := if toolMap.str "name" = "" then targetType else toolMap.str "name"
        let flatTool := ("type", .str targetType) :: ("name", .str innerName) ::
          (toolMap.delete "type").delete "name"
        some (if innerName = "apply_patch" then patchParameters flatTool else flatTool)

/-- A name with a namespace becomes the one that the mapper has for both. -/
def sanitizeTool (innerMap : Fields) (mapper : ToolNameMapper) : Fields × ToolNameMapper :=
  let name := innerMap.str "name"
  if innerMap.str "namespace" = "" then (innerMap, mapper)
  else if name = "" then (innerMap.delete "namespace", mapper)
  else
    let registered := mapper.sanitizeAndRegister (innerMap.str "namespace", name)
    ((innerMap.put "name" (.str registered.1)).delete "namespace", registered.2)

def wrapFlatToolToNestedOpenAI (flatTool : Fields) (mapper : ToolNameMapper) :
    Fields × ToolNameMapper :=
  let toolType := if flatTool.str "type" = "" then "function" else flatTool.str "type"
  let innerMap := flatTool.delete "type"
  let name := innerMap.str "name"
  let mapper := if name ≠ "" ∧ (name = "apply_patch" ∨ toolType = "custom") then
    mapper.registerCustom name else mapper
  let wrapped := sanitizeTool innerMap mapper
  ([("type", .str toolType), (toolType, .object wrapped.1)], wrapped.2)

/-- The standard form of a tool that is sent: other tools than functions are left out. -/
def functionTool (toolMap : Fields) : Option Fields :=
  (buildStandardTool toolMap).filter fun stdTool => stdTool.str "type" = "function"

/-- The functions of an entry of `tools`; those of a namespace get its name. -/
def standardTools : Json → List Fields
  | .object toolMap =>
    if Fields.str toolMap "type" = "namespace" then
      ((Fields.array? toolMap "tools").getD []).filterMap fun
        | .object subToolMap => (functionTool subToolMap).map fun stdTool =>
            if Fields.str toolMap "name" = "" then stdTool
            else stdTool.put "namespace" (.str (Fields.str toolMap "name"))
        | _ => none
    else (functionTool toolMap).toList
  | _ => []

def wrapTools (stdTools : List Fields) (mapper : ToolNameMapper) : List Fields × ToolNameMapper :=
  stdTools.foldl (fun r stdTool =>
    let wrapped := wrapFlatToolToNestedOpenAI stdTool r.2
    (r.1 ++ [wrapped.1], wrapped.2)) ([], mapper)

/-! ## The request -/

def responsesReasoningEffort (payload : Fields) : String :=
  ((payload.object? "reasoning").map fun reasoning => reasoning.str "effort").getD ""

def hasReasoningEffort (effort : String) : Bool := effort ≠ "" ∧ effort ≠ "none"

def historyItems (marshal : Json → String) (payload : Fields) : List HistoryItem :=
  ((payload.array? "input").getD []).filterMap (readItem marshal)

/-- What the first pass finds in a request. -/
def requestHistory (marshal : Json → String) (payload : Fields) : History :=
  .ofItems (hasReasoningEffort (responsesReasoningEffort payload)) (historyItems marshal payload)

def instructionMessages (payload : Fields) : List ChatMessage :=
  if payload.str "instructions" = "" then []
  else [{ role := "system", content := some (payload.str "instructions") }]

/-- The messages of a request, and the names that its calls have registered. -/
def requestAssembly (marshal : Json → String) (payload : Fields) : Assembly :=
  let start : Assembly := { messages := instructionMessages payload }
  match payload.lookup "input" with
  | some (.str text) =>
    if text = "" then start
    else { start with messages := start.messages ++ [{ role := "user", content := some text }] }
  | _ => start.assemble (requestHistory marshal payload) (historyItems marshal payload)

def chatFields (payload : Fields) : Fields :=
  let payload := ((payload.delete "messages").delete "input").delete "instructions"
  let effort := responsesReasoningEffort payload
  let payload := if effort ≠ "" ∧ (payload.lookup "reasoning_effort").isNone then
    payload.put "reasoning_effort" (.str effort) else payload
  let payload := ["store", "previous_response_id", "include", "background", "truncation", "text",
    "reasoning"].foldl Fields.delete payload
  match payload.lookup "max_output_tokens" with
  | some limit => (payload.put "max_completion_tokens" limit).delete "max_output_tokens"
  | none => payload

structure ChatRequest where
  messages : List ChatMessage
  tools : List Fields
  fields : Fields

/-- `ResponsesRequestToChat` on a body that decodes. -/
def responsesRequestToChat (marshal : Json → String) (payload : Fields) :
    ChatRequest × ToolNameMapper :=
  let assembly := requestAssembly marshal payload
  let fields := chatFields payload
  match fields.array? "tools" with
  | none => ({ messages := assembly.messages, tools := [], fields := fields }, assembly.mapper)
  | some tools =>
    let wrapped := wrapTools (tools.flatMap standardTools) assembly.mapper
    let fields := fields.delete "tools"
    ({ messages := assembly.messages
       tools := wrapped.1
       fields := if wrapped.1.isEmpty then fields.delete "tool_choice" else fields },
      wrapped.2)

end TokenliveGateway
