import TokenliveGateway.ResponsesChat

/-!
# Rounds of tool calls

The messages that `ResponsesRequestToChat` makes of a history consist of rounds, each an
assistant message with calls and the tool messages that answer them, and of single
messages. An open round collects calls and texts until an item closes it.
-/
namespace TokenliveGateway
open KeyedEntries List Assembly

/-! ## What a history asks for -/

def outputIDs (items : List HistoryItem) : List String :=
  items.filterMap fun
    | .output callID _ => if callID = "" then none else some callID
    | _ => none

/-- The calls of a history with one of the ids, each with its arguments. -/
def answeredCalls (ids : List String) (items : List HistoryItem) : List (String × String) :=
  items.filterMap fun
    | .call _ callID _ _ arguments => if callID ∈ ids then some (callID, arguments) else none
    | _ => none

def sentCalls (chat : List ChatMessage) : List (String × String) :=
  (chat.flatMap ChatMessage.calls).map fun call => (call.id, call.arguments)

/-- The message answers the call with an output of the history. -/
structure Answers (items : List HistoryItem) (call : ChatToolCall) (m : ChatMessage) : Prop where
  role : m.role = "tool"
  toolCallID : m.toolCallID = call.id
  noCalls : m.toolCalls = none
  output : ∃ text, .output call.id text ∈ items ∧ m.content = some text

/-- A chat of rounds: a message with calls stands right in front of one answer for each of
them, in their order, and every other message is as `P` says. -/
inductive Rounds (items : List HistoryItem) (P : ChatMessage → Prop) : List ChatMessage → Prop
  | nil : Rounds items P []
  | message {chat : List ChatMessage} {m : ChatMessage} (hchat : Rounds items P chat) (hm : P m) :
      Rounds items P (chat ++ [m])
  | round {chat answers : List ChatMessage} {m : ChatMessage} {calls : List ChatToolCall}
      (hchat : Rounds items P chat) (hrole : m.role = "assistant")
      (hcalls : m.toolCalls = some (.answered calls)) (hsome : calls ≠ [])
      (hanswers : List.Forall₂ (Answers items) calls answers) :
      Rounds items P (chat ++ m :: answers)

@[simp] lemma answeredCalls_append (ids : List String) (items items' : List HistoryItem) :
    answeredCalls ids (items ++ items') = answeredCalls ids items ++ answeredCalls ids items' :=
  filterMap_append

@[simp] lemma sentCalls_append (chat chat' : List ChatMessage) :
    sentCalls (chat ++ chat') = sentCalls chat ++ sentCalls chat' := by
  simp [sentCalls]

lemma sentCalls_cons (m : ChatMessage) (chat : List ChatMessage) :
    sentCalls (m :: chat) =
      m.calls.map (fun call => (call.id, call.arguments)) ++ sentCalls chat := by
  simp [sentCalls]

lemma sentCalls_answers {items : List HistoryItem} {calls : List ChatToolCall}
    {answers : List ChatMessage} (h : List.Forall₂ (Answers items) calls answers) :
    sentCalls answers = [] := by
  induction h with
  | nil => rfl
  | cons ha _ ih =>
    rw [sentCalls_cons, ih, ChatMessage.calls, ha.noCalls]
    rfl

/-- What the passes agree on: the second one uses the outputs of `items`. -/
structure History.Of (h : History) (items : List HistoryItem) : Prop where
  keys : ∀ callID, h.toolOutputs.lookup callID ≠ none ↔ callID ∈ outputIDs items
  texts : ∀ callID text, h.toolOutputs.lookup callID = some text → .output callID text ∈ items

lemma mem_outputIDs (items : List HistoryItem) (callID : String) :
    callID ∈ outputIDs items ↔ callID ≠ "" ∧ ∃ text, .output callID text ∈ items := by
  induction items with
  | nil => simp [outputIDs]
  | cons item items ih =>
    unfold outputIDs at ih ⊢
    rw [filterMap_cons]
    cases item with
    | output id out => by_cases he : id = "" <;> aesop
    | reasoning _ => simpa using ih
    | call _ _ _ _ _ | message _ _ _ _ _ => simpa using ih

lemma History.ofItems_of (cfg : Bool) (items : List HistoryItem) :
    (History.ofItems cfg items).Of items where
  keys callID := by
    rw [lookup_ne_none_iff, mem_outputIDs]
    simp [History.ofItems, mem_toolOutputs]
  texts callID text ht := ((mem_toolOutputs items callID text).mp (mem_of_lookup ht)).2

namespace Assembly
variable {h : History} {s s' : Assembly} {item : HistoryItem}

/-! ## Closing a round -/

variable (h s) in
/-- The calls of the open round have outputs, and texts wait only for an open round. -/
structure Waiting : Prop where
  answered : ∀ call ∈ s.pendingToolCalls, h.toolOutputs.lookup call.id ≠ none
  text : s.pendingToolCalls = [] → s.pendingToolText = ""

variable (h) in
/-- The message that answers a call. -/
def answer (call : ChatToolCall) : ChatMessage :=
  toolMessage (call, (h.toolOutputs.lookup call.id).getD "")

variable (h s) in
def roundMessage : ChatMessage :=
  applyAssistantReasoning
    { role := "assistant"
      toolCalls := some (.answered s.pendingToolCalls)
      content := if s.pendingToolText = "" then none else some s.pendingToolText }
    s.pendingReasoning h.inThinkingMode

variable (h s) in
/-- The messages that an open round becomes. -/
def round : List ChatMessage :=
  if s.pendingToolCalls = [] then []
  else roundMessage h s :: s.pendingToolCalls.map (answer h)

lemma applyAssistantReasoning_fields (m : ChatMessage) (text : String) (enabled : Bool) :
    let m' := applyAssistantReasoning m text enabled
    m'.role = m.role ∧ m'.content = m.content ∧ m'.toolCalls = m.toolCalls := by
  unfold applyAssistantReasoning
  dsimp only
  split_ifs <;> exact ⟨rfl, rfl, rfl⟩

lemma roundMessage_role : (roundMessage h s).role = "assistant" :=
  (applyAssistantReasoning_fields _ _ _).1

lemma roundMessage_content : (roundMessage h s).content =
    if s.pendingToolText = "" then none else some s.pendingToolText :=
  (applyAssistantReasoning_fields _ _ _).2.1

lemma roundMessage_toolCalls :
    (roundMessage h s).toolCalls = some (.answered s.pendingToolCalls) :=
  (applyAssistantReasoning_fields _ _ _).2.2

lemma roundMessage_calls : (roundMessage h s).calls = s.pendingToolCalls := by
  rw [ChatMessage.calls, roundMessage_toolCalls]

lemma roundMessage_reasoning (hr : s.pendingReasoning ≠ "") :
    (roundMessage h s).reasoningContent = some s.pendingReasoning := by
  simp [roundMessage, applyAssistantReasoning, hr]

lemma answered_eq {calls : List ChatToolCall}
    (hcalls : ∀ call ∈ calls, h.toolOutputs.lookup call.id ≠ none) :
    answered h calls = calls.map fun call => (call, (h.toolOutputs.lookup call.id).getD "") := by
  unfold answered
  induction calls with
  | nil => rfl
  | cons call calls ih =>
    obtain ⟨out, ho⟩ := Option.ne_none_iff_exists'.mp (hcalls call mem_cons_self)
    have hi : call.id ≠ "" := by
      intro he
      rw [he, h.named] at ho
      cases ho
    rw [filterMap_cons, map_cons, ih fun c hc => hcalls c (mem_cons_of_mem _ hc)]
    simp [hi, ho]

/-- Closing a round sends all of its calls. -/
lemma flush_eq (hs : Waiting h s) :
    flushPendingToolCalls h s =
      { s with
        messages := s.messages ++ round h s
        pendingToolCalls := []
        pendingToolText := ""
        pendingAnswered := s.pendingAnswered ++ s.pendingToolCalls.map ChatToolCall.id
        pendingReasoning := if s.pendingToolCalls = [] then s.pendingReasoning else "" } := by
  unfold flushPendingToolCalls round
  by_cases ho : s.pendingToolCalls = []
  · have ht := hs.text ho
    cases s
    simp_all
  · have ha := answered_eq hs.answered
    have hso : answered h s.pendingToolCalls ≠ [] := by
      rw [ha]
      simpa using ho
    rw [if_neg ho, if_neg ho, if_neg ho]
    dsimp only
    rw [if_neg hso, ha]
    simp [roundMessage, answer, Function.comp_def]

lemma round_of_closed (hc : s.pendingToolCalls = []) : round h s = [] :=
  if_pos hc

lemma flush_of_closed (hc : s.pendingToolCalls = []) : flushPendingToolCalls h s = s :=
  if_pos hc

lemma flush_pendingToolCalls (hs : Waiting h s) :
    (flushPendingToolCalls h s).pendingToolCalls = [] := by
  rw [flush_eq hs]

lemma flush_messages (hs : Waiting h s) :
    (flushPendingToolCalls h s).messages = s.messages ++ round h s := by
  rw [flush_eq hs]

lemma Waiting.flush (hs : Waiting h s) : Waiting h (flushPendingToolCalls h s) := by
  rw [flush_eq hs]
  exact ⟨by simp, fun _ => rfl⟩

/-! ## What an item does -/

variable (h s) in
/-- The item says something that the chat repeats: a new reasoning text, a call with an
output, or a text of the assistant. -/
def Says : HistoryItem → Prop
  | .reasoning text => text ≠ "" ∧ text ≠ s.pendingReasoning
  | .call _ callID _ _ _ => h.toolOutputs.lookup callID ≠ none
  | .output _ _ => False
  | .message role text _ _ toolCalls => role = "assistant" ∧ toolCalls = none ∧ text ≠ ""

variable (h) in
/-- Every way in which an item changes the state. -/
inductive Effect (s : Assembly) : HistoryItem → Assembly → Prop
  | idle {item : HistoryItem} (hidle : ¬Says h s item) : Effect s item s
  | thinks {text : String} (htext : text ≠ "") :
      Effect s (.reasoning text) { s with pendingReasoning := text }
  | calls {custom : Bool} {name toolNamespace : String} (call : ChatToolCall)
      (mapper : ToolNameMapper) (hkept : h.toolOutputs.lookup call.id ≠ none) :
      Effect s (.call custom call.id name toolNamespace call.arguments)
        { s with mapper := mapper, pendingToolCalls := s.pendingToolCalls ++ [call] }
  | adds {text name toolCallID : String} (hopen : s.pendingToolCalls ≠ []) (htext : text ≠ "") :
      Effect s (.message "assistant" text name toolCallID none)
        { s with
          pendingToolText :=
            (if s.pendingToolText = "" then "" else s.pendingToolText ++ "\n") ++ text }
  | closes {callID text : String} : Effect s (.output callID text) (flushPendingToolCalls h s)
  | drops {role text name toolCallID : String} {toolCalls : Option Json}
      (hcloses : Closes s role toolCalls) (hblank : isBlank text = true) :
      Effect s (.message role text name toolCallID toolCalls) (flushPendingToolCalls h s)
  | sends {role text name toolCallID : String} {toolCalls : Option Json}
      (hcloses : Closes s role toolCalls) (m : ChatMessage) (reasoning : String)
      (hrole : m.role = openAIRole role) (hcontent : m.content = some text)
      (hcalls : m.toolCalls = toolCalls.map .given)
      (hthought : m.role = "assistant" → (flushPendingToolCalls h s).pendingReasoning ≠ "" →
        m.reasoningContent = some (flushPendingToolCalls h s).pendingReasoning) :
      Effect s (.message role text name toolCallID toolCalls)
        { flushPendingToolCalls h s with
          messages := (flushPendingToolCalls h s).messages ++ [m]
          pendingReasoning := reasoning }

lemma sendMessage_effect (role text name toolCallID : String) (toolCalls : Option Json)
    (hc : Closes s role toolCalls) :
    Effect h s (.message role text name toolCallID toolCalls)
      (sendMessage h role text name toolCallID toolCalls (flushPendingToolCalls h s)) := by
  unfold sendMessage
  dsimp only
  split_ifs with he ha
  · exact .drops hc he.2.1
  · obtain ⟨hr, hn, hcalls⟩ := applyAssistantReasoning_fields
      { role := openAIRole role
        content := some text
        name := name
        toolCallID := toolCallID
        toolCalls := toolCalls.map .given }
      (flushPendingToolCalls h s).pendingReasoning h.inThinkingMode
    refine .sends hc _ _ hr hn hcalls fun _ hs => ?_
    simp [applyAssistantReasoning, ha, hs]
  · exact .sends hc _ _ rfl rfl rfl fun hr => absurd hr ha

lemma stepItem_effect (s : Assembly) (item : HistoryItem) :
    Effect h s item (stepItem h s item) := by
  cases item with
  | reasoning text =>
    dsimp only [stepItem]
    by_cases he : text = ""
    · rw [if_pos he]
      exact .idle fun hs => hs.1 he
    · rw [if_neg he]
      exact .thinks he
  | call custom callID name ns args =>
    dsimp only [stepItem, addCall]
    by_cases hn : h.toolOutputs.lookup callID = none
    · rw [if_pos hn]
      exact .idle fun hs => hs hn
    · rw [if_neg hn]
      exact .calls ⟨callID, _, args⟩ _ hn
  | output callID text =>
    dsimp only [stepItem]
    split_ifs
    · exact .closes
    · exact .idle fun hs => hs
  | message role text name toolCallID toolCalls =>
    dsimp only [stepItem]
    by_cases hc : Closes s role toolCalls
    · rw [if_pos hc]
      exact sendMessage_effect role text name toolCallID toolCalls hc
    · obtain ⟨hcalls, hr⟩ := not_or.mp hc
      obtain ⟨hl, ho⟩ := not_or.mp hr
      obtain rfl := not_not.mp hl
      obtain rfl := not_not.mp hcalls
      rw [if_neg hc]
      by_cases he : text = ""
      · rw [if_pos he]
        exact .idle fun hs => hs.2.2 he
      · rw [if_neg he]
        exact .adds ho he

lemma Waiting.step (hs : Waiting h s) (ht : Effect h s item s') : Waiting h s' := by
  cases ht with
  | idle _ => exact hs
  | thinks _ => exact ⟨hs.answered, hs.text⟩
  | calls call mapper hk =>
    refine ⟨fun c hc => ?_, by simp⟩
    rcases mem_append.mp hc with hc | hc
    · exact hs.answered c hc
    · obtain rfl := mem_singleton.mp hc
      exact hk
  | adds ho _ => exact ⟨hs.answered, fun hl => absurd hl ho⟩
  | closes => exact hs.flush
  | drops _ _ => exact hs.flush
  | sends _ m rs _ _ _ _ => exact ⟨hs.flush.answered, hs.flush.text⟩

/-- The calls of the open round do not go away, except into messages. -/
lemma Effect.messages_prefix (hs : Waiting h s) (ht : Effect h s item s') :
    (s'.messages = s.messages ∧ s.pendingToolCalls <+: s'.pendingToolCalls) ∨
      s.messages ++ round h s <+: s'.messages := by
  cases ht with
  | idle _ | thinks _ => exact .inl ⟨rfl, prefix_refl _⟩
  | calls call mp _ => exact .inl ⟨rfl, prefix_append _ _⟩
  | adds _ _ => exact .inl ⟨rfl, prefix_refl _⟩
  | closes => exact .inr (flush_messages hs ▸ prefix_refl _)
  | drops _ _ => exact .inr (flush_messages hs ▸ prefix_refl _)
  | sends _ m rs _ _ _ _ => exact .inr (flush_messages hs ▸ prefix_append _ _)

/-! ## Whole histories -/

section
variable {items part : List HistoryItem} {P : ChatMessage → Prop}

lemma answer_answers (hof : h.Of items) {call : ChatToolCall}
    (hk : h.toolOutputs.lookup call.id ≠ none) : Answers items call (answer h call) := by
  obtain ⟨text, ht⟩ := Option.ne_none_iff_exists'.mp hk
  refine ⟨rfl, rfl, rfl, text, hof.texts call.id text ht, ?_⟩
  simp [answer, toolMessage, ht]

lemma answers_round (hof : h.Of items) (hs : Waiting h s) :
    List.Forall₂ (Answers items) s.pendingToolCalls (s.pendingToolCalls.map (answer h)) := by
  rw [forall₂_map_right_iff, forall₂_same]
  exact fun call hc => answer_answers hof (hs.answered call hc)

lemma rounds_round (hof : h.Of items) (hs : Waiting h s) {chat : List ChatMessage}
    (hc : Rounds items P chat) : Rounds items P (chat ++ round h s) := by
  unfold round
  split_ifs with hl
  · rwa [append_nil]
  · exact .round hc roundMessage_role roundMessage_toolCalls hl (answers_round hof hs)

lemma sentCalls_round (hof : h.Of items) (hs : Waiting h s) :
    sentCalls (round h s) = s.pendingToolCalls.map fun call => (call.id, call.arguments) := by
  unfold round
  split_ifs with hc
  · rw [hc]
    rfl
  · rw [sentCalls_cons, sentCalls_answers (answers_round hof hs), roundMessage_calls, append_nil]

/-- The state after a part of the history: the messages are rounds, and the calls with an
output have been sent or wait, in their order. -/
structure Assembled (items : List HistoryItem) (P : ChatMessage → Prop) (h : History)
    (part : List HistoryItem) (s : Assembly) : Prop where
  waiting : Waiting h s
  rounds : Rounds items P s.messages
  calls : sentCalls s.messages ++ s.pendingToolCalls.map (fun call => (call.id, call.arguments)) =
    answeredCalls (outputIDs items) part

variable (P) in
/-- A message item is sent as a message that is as `P` says. -/
def Fits : HistoryItem → Prop
  | .message role _ _ _ toolCalls => ∀ m : ChatMessage, m.role = openAIRole role →
      m.toolCalls = toolCalls.map .given → P m
  | _ => True

variable (hof : h.Of items)
include hof

lemma Assembled.flush (hs : Assembled items P h part s) :
    Assembled items P h part (flushPendingToolCalls h s) := by
  refine ⟨hs.waiting.flush, ?_, ?_⟩
  · rw [flush_messages hs.waiting]
    exact rounds_round hof hs.waiting hs.rounds
  · rw [flush_messages hs.waiting, flush_pendingToolCalls hs.waiting, sentCalls_append,
      sentCalls_round hof hs.waiting, map_nil, append_nil]
    exact hs.calls

omit hof in
lemma answeredCalls_call {callID : String} {ids : List String} (hi : callID ∈ ids)
    {custom : Bool} {name ns args : String} :
    answeredCalls ids [.call custom callID name ns args] =
      [(callID, args)] := by
  simp [answeredCalls, hi]

/-- An item that says nothing brings no call. -/
lemma answeredCalls_of_idle (hd : ¬Says h s item) :
    answeredCalls (outputIDs items) [item] = [] := by
  cases item with
  | call custom callID name ns args =>
    have hi : callID ∉ outputIDs items := fun hi => hd ((hof.keys callID).mpr hi)
    simp [answeredCalls, hi]
  | reasoning _ => rfl
  | output _ _ => rfl
  | message _ _ _ _ _ => rfl

variable (hcalls : ∀ m, P m → m.calls = [])
include hcalls

lemma Assembled.step (hft : Fits P item)
    (hs : Assembled items P h part s) (ht : Effect h s item s') :
    Assembled items P h (part ++ [item]) s' := by
  have hw := hs.waiting.step ht
  have hf := hs.flush hof
  have hsm : answeredCalls (outputIDs items) [item] = [] →
      answeredCalls (outputIDs items) (part ++ [item]) = answeredCalls (outputIDs items) part := by
    intro hn
    rw [answeredCalls_append, hn, append_nil]
  cases ht with
  | idle hi => exact ⟨hw, hs.rounds, hs.calls.trans (hsm
      (answeredCalls_of_idle hof hi)).symm⟩
  | thinks _ => exact ⟨hw, hs.rounds, hs.calls.trans (hsm rfl).symm⟩
  | calls call mapper hk =>
    refine ⟨hw, hs.rounds, ?_⟩
    dsimp only
    rw [answeredCalls_append, answeredCalls_call ((hof.keys call.id).mp hk), map_append,
      ← append_assoc, hs.calls]
    rfl
  | adds _ _ => exact ⟨hw, hs.rounds, hs.calls.trans (hsm rfl).symm⟩
  | closes => exact ⟨hw, hf.rounds, hf.calls.trans (hsm rfl).symm⟩
  | drops _ _ => exact ⟨hw, hf.rounds, hf.calls.trans (hsm rfl).symm⟩
  | sends _ m rs hr _ hc _ =>
    have hm : P m := hft m hr hc
    refine ⟨hw, hf.rounds.message hm, ?_⟩
    have hn : sentCalls [m] = [] := by rw [sentCalls_cons, hcalls m hm]; rfl
    dsimp only
    rw [sentCalls_append, hn, append_nil, hf.calls]
    exact (hsm rfl).symm

lemma Assembled.run {st : List ChatMessage} (hs : Rounds items P st)
    (hn : sentCalls st = [])
    (hf : ∀ item ∈ part, Fits P item) :
    Assembled items P h part (part.foldl (stepItem h) { messages := st }) := by
  induction part using reverseRecOn with
  | nil => exact ⟨⟨by simp, fun _ => rfl⟩, hs, by simp [hn, answeredCalls]⟩
  | append_singleton part item ih =>
    rw [foldl_append, foldl_cons, foldl_nil]
    refine (ih fun i hi => hf i (mem_append_left _ hi)).step hof hcalls ?_
      (stepItem_effect _ item)
    exact hf item (by simp)

/-- The messages of a history. -/
lemma assemble_rounds {st : List ChatMessage} (hs : Rounds items P st)
    (hn : sentCalls st = [])
    (ht : ∀ item ∈ part, Fits P item) :
    let chat := (assemble h { messages := st } part).messages
    Rounds items P chat ∧ sentCalls chat = answeredCalls (outputIDs items) part := by
  have hr := Assembled.run hof hcalls hs hn ht
  have hf := hr.flush hof
  refine ⟨hf.rounds, ?_⟩
  have ha := hf.calls
  rwa [flush_pendingToolCalls hr.waiting, map_nil, append_nil] at ha

end

end Assembly

/-! ## Pairs of calls and results -/

/-- A message outside of the rounds: no result, and without calls. -/
structure ChatMessage.Plain (m : ChatMessage) : Prop where
  role : m.role ≠ "tool"
  noCalls : m.toolCalls = none ∨ m.toolCalls = some (.given .null)

lemma ChatMessage.Plain.calls_eq_nil {m : ChatMessage} (hm : m.Plain) : m.calls = [] := by
  rcases hm.noCalls with hcalls | hcalls <;> rw [ChatMessage.calls, hcalls]

lemma openAIRole_eq_tool {role : String} (h : openAIRole role = "tool") :
    role = "tool" := by
  unfold openAIRole at h
  split_ifs at h
  · exact absurd h (by decide)
  · exact absurd h (by decide)
  · exact h

lemma instructionMessages_plain (pl : Fields) :
    ∀ m ∈ instructionMessages pl, m.Plain := by
  unfold instructionMessages
  split_ifs
  · simp
  · intro m hm
    obtain rfl := mem_singleton.mp hm
    exact ⟨(by decide : "system" ≠ "tool"), .inl rfl⟩

lemma Rounds.of_all {items : List HistoryItem} {P : ChatMessage → Prop} {chat : List ChatMessage}
    (ha : ∀ m ∈ chat, P m) : Rounds items P chat := by
  induction chat using reverseRecOn with
  | nil => exact .nil
  | append_singleton chat m ih =>
    exact .message (ih fun m' hm' => ha m' (mem_append_left _ hm')) (ha m (by simp))

lemma sentCalls_of_all {chat : List ChatMessage} (ha : ∀ m ∈ chat, m.calls = []) :
    sentCalls chat = [] := by
  have hcalls : chat.flatMap ChatMessage.calls = [] := flatMap_eq_nil_iff.mpr ha
  rw [sentCalls, hcalls]
  rfl

/-- The messages of a request are those of its history, or those of the text it has instead. -/
lemma messages_cases (marshal : Json → String) (pl : Fields) :
    (responsesRequestToChat marshal pl).1.messages =
        (assemble (requestHistory marshal pl)
          { messages := instructionMessages pl } (historyItems marshal pl)).messages ∨
      historyItems marshal pl = [] ∧ ∃ text,
        (responsesRequestToChat marshal pl).1.messages =
          instructionMessages pl ++ [{ role := "user", content := some text }] := by
  have hm : (responsesRequestToChat marshal pl).1.messages =
      (requestAssembly marshal pl).messages := by
    unfold responsesRequestToChat
    dsimp only
    cases (chatFields pl).array? "tools" <;> rfl
  rw [hm]
  unfold requestAssembly
  cases hn : pl.lookup "input" with
  | none => exact .inl rfl
  | some input =>
    cases input with
    | str text =>
      have hi : historyItems marshal pl = [] := by
        simp [historyItems, Fields.array?, hn]
      dsimp only
      split_ifs
      · rw [hi]
        exact .inl rfl
      · exact .inr ⟨hi, text, rfl⟩
    | null => exact .inl rfl
    | bool _ | number _ | array _ | object _ => exact .inl rfl

/-- Whatever the order of the items, every message with calls is followed by their results
and there is no other result; each call with an output is sent once. -/
theorem tool_calls_stay_paired (marshal : Json → String) (payload : Fields)
    (hmessages : ∀ role text name toolCallID toolCalls,
      .message role text name toolCallID toolCalls ∈ historyItems marshal payload →
      role ≠ "tool" ∧ (toolCalls = none ∨ toolCalls = some .null)) :
    let items := historyItems marshal payload
    let chat := (responsesRequestToChat marshal payload).1.messages
    Rounds items ChatMessage.Plain chat ∧
      sentCalls chat = answeredCalls (outputIDs items) items := by
  have hs : Rounds (historyItems marshal payload) ChatMessage.Plain
      (instructionMessages payload) := .of_all (instructionMessages_plain payload)
  have hn : sentCalls (instructionMessages payload) = [] :=
    sentCalls_of_all fun m hm => (instructionMessages_plain payload m hm).calls_eq_nil
  have hf : ∀ item ∈ historyItems marshal payload, Fits ChatMessage.Plain item := by
    intro item hi
    cases item with
    | message role text name toolCallID toolCalls =>
      obtain ⟨hr, hcalls⟩ := hmessages role text name toolCallID toolCalls hi
      intro m hm hmc
      refine ⟨fun hl => hr (openAIRole_eq_tool (hm ▸ hl)), ?_⟩
      rcases hcalls with rfl | rfl
      · exact .inl hmc
      · exact .inr hmc
    | reasoning _ => trivial
    | call _ _ _ _ _ => trivial
    | output _ _ => trivial
  dsimp only
  rcases messages_cases marshal payload with hc | ⟨ht, text, hc⟩
  · rw [hc]
    exact assemble_rounds (History.ofItems_of _ _) (fun m hm => hm.calls_eq_nil) hs
      hn hf
  · rw [hc]
    refine ⟨hs.message ⟨(by decide : "user" ≠ "tool"), .inl rfl⟩, ?_⟩
    rw [sentCalls_append, hn, ht]
    rfl

/-- A history in which an output comes before its call, a text between two calls, and one
call without output. -/
def scatteredHistory : Fields :=
  [("input", .array
    [.object [("type", .str "function_call_output"), ("call_id", .str "call_2"),
        ("output", .str "rain")],
      .object [("type", .str "function_call"), ("call_id", .str "call_1"), ("name", .str "time"),
        ("arguments", .str "1")],
      .object [("role", .str "assistant"), ("content", .str "Let me see.")],
      .object [("type", .str "function_call"), ("call_id", .str "call_2"), ("name", .str "weather"),
        ("arguments", .str "2")],
      .object [("type", .str "function_call"), ("call_id", .str "call_3"), ("name", .str "news")],
      .object [("type", .str "function_call_output"), ("id", .str "call_1"),
        ("output", .str "noon")],
      .object [("role", .str "user"), ("content", .str "And now?")]])]

theorem scatteredHistory_paired :
    let chat := (responsesRequestToChat (fun _ => "") scatteredHistory).1.messages
    Rounds (historyItems (fun _ => "") scatteredHistory) ChatMessage.Plain chat ∧
      sentCalls chat = [("call_1", "1"), ("call_2", "2")] := by
  have hi : historyItems (fun _ => "") scatteredHistory =
      [.output "call_2" "rain", .call false "call_1" "time" "" "1",
        .message "assistant" "Let me see." "" "" none, .call false "call_2" "weather" "" "2",
        .call false "call_3" "news" "" "", .output "call_1" "noon",
        .message "user" "And now?" "" "" none] := by
    rfl
  obtain ⟨hr, hcalls⟩ := tool_calls_stay_paired (fun _ => "") scatteredHistory (by
    rw [hi]
    intro role text name toolCallID toolCalls hm
    simp only [mem_cons, HistoryItem.message.injEq, reduceCtorEq, not_mem_nil, false_or,
      or_false] at hm
    rcases hm with ⟨rfl, -, -, -, rfl⟩ | ⟨rfl, -, -, -, rfl⟩
    · exact ⟨by decide, .inl rfl⟩
    · exact ⟨by decide, .inl rfl⟩)
  refine ⟨hr, hcalls.trans ?_⟩
  rw [hi]
  rfl

end TokenliveGateway
