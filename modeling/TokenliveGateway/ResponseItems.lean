import TokenliveGateway.ItemStreams
import TokenliveGateway.StreamEvents

/-!
# The output items of a Responses stream

A Responses stream announces its output items by index, refers to them in the events for
their parts and deltas, and ends each with a `done` event.
-/
namespace TokenliveGateway
open ItemStreams

/-- The event is about an item that was announced as this one. -/
def OutputItem.Refers : OutputItem → ResponsesEvent → Prop
  | reasoning id _ _ _, .reasoningPartAdded _ itemID _
  | reasoning id _ _ _, .reasoningTextDelta _ itemID _ _
  | reasoning id _ _ _, .reasoningTextDone _ itemID _ _
  | reasoning id _ _ _, .reasoningPartDone _ itemID _ _
  | message id _ _, .contentPartAdded _ itemID _
  | message id _ _, .outputTextDelta _ itemID _ _
  | message id _ _, .outputTextDone _ itemID _ _
  | message id _ _, .contentPartDone _ itemID _ _ => itemID = id
  | functionCall id callID _ _ _ _, .argumentsDelta _ itemID eventCallID _ _
  | functionCall id callID _ _ _ _, .argumentsDone _ itemID eventCallID _ _
  | customToolCall id callID _ _ _ _, .argumentsDelta _ itemID eventCallID _ _
  | customToolCall id callID _ _ _ _, .argumentsDone _ itemID eventCallID _ _ =>
    itemID = id ∧ (∀ given ∈ eventCallID, given = callID)
  | _, _ => False

/-- The two are one item at different times: ids, name and namespace are the same. -/
def OutputItem.Same : OutputItem → OutputItem → Prop
  | reasoning id _ _ _, reasoning id' _ _ _ => id = id'
  | message id _ _, message id' _ _ => id = id'
  | functionCall id callID _ name toolNamespace _,
      functionCall id' callID' _ name' toolNamespace' _ =>
    id = id' ∧ callID = callID' ∧ name = name' ∧ toolNamespace = toolNamespace'
  | customToolCall id callID _ name toolNamespace _,
      customToolCall id' callID' _ name' toolNamespace' _ =>
    id = id' ∧ callID = callID' ∧ name = name' ∧ toolNamespace = toolNamespace'
  | _, _ => False

def OutputItem.content : OutputItem → String
  | reasoning _ summary _ _ => .join summary
  | message _ _ content => .join content
  | functionCall _ _ _ _ _ arguments => arguments
  | customToolCall _ _ _ _ _ input => input

namespace ResponsesEvent

/-- What an event does to an item. -/
def mark : ResponsesEvent → Option (Mark OutputItem ResponsesEvent OutputItem)
  | outputItemAdded _ i item => some (.opens i item)
  | outputItemDone _ i item => some (.closes i item)
  | e@(contentPartAdded _ _ i) | e@(reasoningPartAdded _ _ i) | e@(outputTextDelta _ _ i _)
  | e@(reasoningTextDelta _ _ i _) | e@(argumentsDelta _ _ _ i _) | e@(outputTextDone _ _ i _)
  | e@(contentPartDone _ _ i _) | e@(reasoningTextDone _ _ i _) | e@(reasoningPartDone _ _ i _)
  | e@(argumentsDone _ _ _ i _) => some (.uses i e)
  | created _ | inProgress _ | done _ | completed _ | failed _ => none

/-- The text that an event adds to the item with an index. -/
def deltaTo (i : ℕ) : ResponsesEvent → Option String
  | outputTextDelta _ _ j delta | reasoningTextDelta _ _ j delta
  | argumentsDelta _ _ _ j delta => if j = i then some delta else none
  | _ => none

end ResponsesEvent
end TokenliveGateway
