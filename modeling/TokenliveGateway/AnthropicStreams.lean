import TokenliveGateway.MessagesResponsesStream

/-!
# Streams of the Messages protocol

What the data of a Messages stream says, and which streams keep to the protocol: one
message, whose content blocks are sent one after another, each under an index of its own.
A block starts empty; its content is what its deltas add.
-/
namespace TokenliveGateway
open EventStreams

/-- The `content_block` of a start event. -/
inductive UpstreamBlock where
  | thinking
  | redactedThinking (data : String)
  | text
  | toolUse (id name : String)
  /-- a block that is no part of the answer itself, such as a search of the server -/
  | other

/-- The `delta` of a block. -/
inductive UpstreamDelta where
  | thinking (text : String)
  | signature (text : String)
  | text (text : String)
  | inputJSON (text : String)
  | other

inductive UpstreamEvent where
  | messageStart (message : Fields)
  | contentBlockStart (index : ℤ) (block : UpstreamBlock)
  | contentBlockDelta (index : ℤ) (delta : UpstreamDelta)
  | contentBlockStop (index : ℤ)
  | messageDelta (event : Fields)
  | messageStop
  /-- pings, and events of unknown types -/
  | ping
  /-- an error, or an event without the fields of its type -/
  | broken

/-- A new block; its content is empty. -/
def readBlock (block : Fields) : Option UpstreamBlock :=
  let type := block.str "type"
  if type = "thinking" then
    if block.str "thinking" = "" ∧ block.str "signature" = "" then some .thinking else none
  else if type = "redacted_thinking" then some (.redactedThinking (block.str "data"))
  else if type = "text" then if block.str "text" = "" then some .text else none
  else if type = "tool_use" then
    if (block.object? "input").getD [] = [] then
      some (.toolUse (block.str "id") (block.str "name"))
    else none
  else some .other

def readDelta (delta : Fields) : UpstreamDelta :=
  let type := delta.str "type"
  if type = "thinking_delta" then .thinking (delta.str "thinking")
  else if type = "signature_delta" then .signature (delta.str "signature")
  else if type = "text_delta" then .text (delta.str "text")
  else if type = "input_json_delta" then .inputJSON (delta.str "partial_json")
  else .other

def readEvent (ev : Fields) : UpstreamEvent :=
  let type := ev.str "type"
  if type = "message_start" then
    match ev.object? "message" with
    | some message => .messageStart message
    | none => .broken
  else if type = "content_block_start" then
    match (ev.object? "content_block").bind readBlock with
    | some block => .contentBlockStart (ev.int "index") block
    | none => .broken
  else if type = "content_block_delta" then
    match ev.object? "delta" with
    | some delta => .contentBlockDelta (ev.int "index") (readDelta delta)
    | none => .broken
  else if type = "content_block_stop" then .contentBlockStop (ev.int "index")
  else if type = "message_delta" then .messageDelta ev
  else if type = "message_stop" then .messageStop
  else if type = "error" then .broken
  else .ping

/-- What the data of a frame says. -/
def upstreamEvent (d : Decoders) (data : Bytes) : UpstreamEvent :=
  if data = ascii "[DONE]" then .ping
  else
    match d.object data with
    | none => .broken
    | some ev => readEvent ev

def UpstreamEvent.isPing : UpstreamEvent → Bool
  | ping => true
  | _ => false

structure SentBlock where
  index : ℤ
  block : UpstreamBlock
  deltas : List UpstreamDelta

namespace SentBlock

def events (b : SentBlock) : List UpstreamEvent :=
  .contentBlockStart b.index b.block ::
    (b.deltas.map (.contentBlockDelta b.index) ++ [.contentBlockStop b.index])

def toolID (b : SentBlock) : Option String :=
  match b.block with
  | .toolUse id _ => some id
  | _ => none

end SentBlock

def UpstreamBlock.Takes : UpstreamBlock → UpstreamDelta → Prop
  | thinking, .thinking _ | thinking, .signature _ => True
  | text, .text _ => True
  | toolUse _ _, .inputJSON _ => True
  | other, _ => True
  | _, .other => True
  | _, _ => False

/-- The events send `blocks` as the protocol says; pings may stand anywhere. -/
structure Conformant (blocks : List SentBlock) (events : List UpstreamEvent) : Prop where
  order : ∃ message deltas, deltas ≠ [] ∧
    events.filter (fun e => !e.isPing) =
      .messageStart message :: (blocks.flatMap SentBlock.events ++
        (deltas.map .messageDelta ++ [.messageStop]))
  indices : (blocks.map SentBlock.index).Nodup
  toolIDs : (blocks.filterMap SentBlock.toolID).Nodup
  named : "" ∉ blocks.filterMap SentBlock.toolID
  deltas : ∀ b ∈ blocks, ∀ delta ∈ b.deltas, b.block.Takes delta

end TokenliveGateway
