import TokenliveGateway.ChatResponsesStream

/-!
# Chat completions as responses

`ChatCompletionToResponses` turns the answer of an upstream that did not stream into a
response. It reads the first choice: its reasoning, and then either its tool calls or its
text.
-/
namespace TokenliveGateway
open EventStreams GoStrings

/-- One entry of `tool_calls` of a message. -/
structure CompletionToolCall where
  id : String := ""
  name : String := ""
  arguments : String := ""

/-- The `message` of a choice. -/
structure CompletionMessage where
  content : String := ""
  reasoningContent : String := ""
  reasoning : String := ""
  toolCalls : List CompletionToolCall := []

/-- A completion as it is unmarshalled; of a choice only the message is read. -/
structure ChatCompletion where
  id : String := ""
  model : String := ""
  choices : List CompletionMessage := []
  promptTokens : ℤ := 0
  completionTokens : ℤ := 0
  totalTokens : ℤ := 0

/-- Namespace and name of a call: `mapper.Restore`, or `splitChatToolName` without a
mapper. -/
def restoredName (mapper : Option ToolNames) (name : String) : String × String :=
  match mapper with
  | some m => m.restore name
  | none => splitChatToolName name

def isCustomCall (mapper : Option ToolNames) (name : String) : Bool :=
  name = "apply_patch" || (mapper.map fun m => m.isCustom name) = some true

def completionToolItem (d : Decoders) (mapper : Option ToolNames) (tc : CompletionToolCall) :
    OutputItem :=
  let (toolNamespace, toolName) := restoredName mapper tc.name
  if isCustomCall mapper toolName then
    .customToolCall (ensureCustomToolCallItemID tc.id) tc.id "completed" toolName toolNamespace
      (extractPatchInput d tc.arguments)
  else
    .functionCall (ensureFunctionCallItemID tc.id) tc.id "completed" toolName toolNamespace
      tc.arguments

/-- The `outputList` of a message. -/
def messageOutput (d : Decoders) (mapper : Option ToolNames) (id : String)
    (message : CompletionMessage) : List OutputItem :=
  let reasoningText :=
    if message.reasoningContent ≠ "" then message.reasoningContent else message.reasoning
  let reasoning := if reasoningText = "" then []
    else [OutputItem.reasoning (chatResponsesID id "rs_") [reasoningText] "" "completed"]
  let rest := if message.toolCalls = [] then
      [OutputItem.message (chatResponsesID id "msg_") "completed" [message.content]]
    else message.toolCalls.map (completionToolItem d mapper)
  reasoning ++ rest

/-- `ChatCompletionToResponsesResult`, with the body that is marshalled. -/
structure ChatCompletionToResponsesResult where
  body : ResponseObject
  completedAt : ℤ
  usage : TokenUsage

/-- `ChatCompletionToResponses` at the time `now`; a body that does not decode is an
error. -/
def chatCompletionToResponses (d : Decoders) (decode : Bytes → Except String ChatCompletion)
    (now : ℤ) (chatBody : Bytes) (model : String) (mapper : Option ToolNames) :
    Except String ChatCompletionToResponsesResult := do
  let oaiResp ← decode chatBody
  let outputList := match oaiResp.choices with
    | [] => []
    | message :: _ => messageOutput d mapper oaiResp.id message
  return {
    body :=
      { id := chatResponsesID oaiResp.id "resp_"
        createdAt := now
        status := "completed"
        model := if model = "" then oaiResp.model else model
        output := outputList
        usage := some
          { inputTokens := oaiResp.promptTokens
            outputTokens := oaiResp.completionTokens
            totalTokens := if oaiResp.totalTokens = 0 then
                oaiResp.promptTokens + oaiResp.completionTokens
              else oaiResp.totalTokens } }
    completedAt := now + 1
    usage :=
      { inputTokens := oaiResp.promptTokens
        outputTokens := oaiResp.completionTokens } }

lemma chatCompletionToResponses_output (d : Decoders)
    {dec : Bytes → Except String ChatCompletion} (now : ℤ) {cb : Bytes} (model : String)
    (mp : Option ToolNames) {completion : ChatCompletion}
    (hd : dec cb = .ok completion) {message : CompletionMessage}
    {os : List CompletionMessage} (hc : completion.choices = message :: os) :
    ∃ res, chatCompletionToResponses d dec now cb model mp = .ok res ∧
      res.body.output = messageOutput d mp completion.id message := by
  refine ⟨_, by rw [chatCompletionToResponses, hd]; rfl, ?_⟩
  rw [hc]

namespace OutputItem

/-- Namespace and name of a tool item. -/
def tool? : OutputItem → Option (String × String)
  | functionCall _ _ _ name toolNamespace _ => some (toolNamespace, name)
  | customToolCall _ _ _ name toolNamespace _ => some (toolNamespace, name)
  | reasoning .. | message .. => none

def callID? : OutputItem → Option String
  | functionCall _ callID _ _ _ _ => some callID
  | customToolCall _ callID _ _ _ _ => some callID
  | reasoning .. | message .. => none

end OutputItem

lemma completionToolItem_tool (d : Decoders) (mp : Option ToolNames) (tc : CompletionToolCall) :
    (completionToolItem d mp tc).tool? = some (restoredName mp tc.name) ∧
      (completionToolItem d mp tc).callID? = some tc.id := by
  unfold completionToolItem
  dsimp only
  split_ifs <;> exact ⟨rfl, rfl⟩

end TokenliveGateway
