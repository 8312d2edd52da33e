import TokenliveGateway.ToolIdentity

/-!
# Streamed and completed Chat answers

The same Chat answer reaches a Responses client in two ways: `ChatToResponsesStream` gathers
it from deltas, `ChatCompletionToResponses` reads it at once. The final response of the stream
has the content of the other one unless the answer has a text beside its tool calls, which is
dropped when nothing is streamed, or a call without an id, for which only the stream makes one
up, or a call whose name the stream restores a second time to something else.
-/
namespace TokenliveGateway
open EventStreams GoStrings KeyedEntries List ChatDelta Function

/-! ## The content of an output -/

/-- What a tool item says, its own id apart. -/
structure ToolContent where
  custom : Bool
  callID : String
  toolNamespace : String
  name : String
  /-- `arguments`, or the `input` of a custom call -/
  arguments : String
  deriving DecidableEq

namespace OutputItem

def reasoningTexts : OutputItem → List String
  | reasoning _ summary _ _ => summary
  | message .. | functionCall .. | customToolCall .. => []

def messageTexts : OutputItem → List String
  | message _ _ content => content
  | reasoning .. | functionCall .. | customToolCall .. => []

def toolContent? : OutputItem → Option ToolContent
  | functionCall _ callID _ name toolNamespace arguments =>
    some ⟨false, callID, toolNamespace, name, arguments⟩
  | customToolCall _ callID _ name toolNamespace input =>
    some ⟨true, callID, toolNamespace, name, input⟩
  | reasoning .. | message .. => none

@[simp] lemma content_reasoning (id : String) (sum : List String)
    (enc status : String) :
    (reasoning id sum enc status).reasoningTexts = sum ∧
      (reasoning id sum enc status).messageTexts = [] ∧
      (reasoning id sum enc status).toolContent? = none :=
  ⟨rfl, rfl, rfl⟩

@[simp] lemma content_message (id status : String) (ct : List String) :
    (message id status ct).reasoningTexts = [] ∧
      (message id status ct).messageTexts = ct ∧
      (message id status ct).toolContent? = none :=
  ⟨rfl, rfl, rfl⟩

lemma content_tools {α : Type*} {f : α → OutputItem} {content : α → ToolContent}
    (h : ∀ a, (f a).toolContent? = some (content a)) (calls : List α) :
    (calls.map f).flatMap reasoningTexts = [] ∧ (calls.map f).flatMap messageTexts = [] ∧
      (calls.map f).filterMap toolContent? = calls.map content := by
  have ht : ∀ item : OutputItem, item.toolContent? ≠ none →
      item.reasoningTexts = [] ∧ item.messageTexts = [] := by
    intro item hi
    cases item with
    | reasoning | message => exact absurd rfl hi
    | functionCall | customToolCall => exact ⟨rfl, rfl⟩
  have hc : ∀ a, (f a).reasoningTexts = [] ∧ (f a).messageTexts = [] := fun a =>
    ht (f a) (by rw [h a]; exact Option.some_ne_none _)
  simp [h, hc]

end OutputItem

/-- The outputs have the same reasoning texts, the same message texts that are not empty, and
the same tool items, ids of items apart. -/
structure SameContent (items items' : List OutputItem) : Prop where
  reasoning : items.flatMap OutputItem.reasoningTexts = items'.flatMap OutputItem.reasoningTexts
  texts : (items.flatMap OutputItem.messageTexts).filter (· ≠ "") =
    (items'.flatMap OutputItem.messageTexts).filter (· ≠ "")
  tools : items.filterMap OutputItem.toolContent? = items'.filterMap OutputItem.toolContent?

/-- The content of the item of a call, whose pair and kind are known. -/
def toolContent (d : Decoders) (custom : Bool) (callID : String) (pair : String × String)
    (arguments : String) : ToolContent :=
  ⟨custom, callID, pair.1, pair.2, if custom then extractPatchInput d arguments else arguments⟩

def callContent (d : Decoders) (mapper : Option ToolNames) (call : CompletionToolCall) :
    ToolContent :=
  let pair := restoredName mapper call.name
  toolContent d (isCustomCall mapper pair.2) call.id pair call.arguments

lemma completionToolItem_content (d : Decoders) (mapper : Option ToolNames)
    (call : CompletionToolCall) :
    (completionToolItem d mapper call).toolContent? = some (callContent d mapper call) := by
  unfold completionToolItem callContent toolContent
  dsimp only
  split_ifs with hc <;> simp [OutputItem.toolContent?, hc]

/-! ## Splits of a message -/

inductive Piece where
  | reasoning (piece : String)
  | text (piece : String)
  | call (tc : ToolCallDelta)

open Piece

namespace Piece

def reasoning? : Piece → Option String
  | reasoning piece => some piece
  | text _ | call _ => none

def text? : Piece → Option String
  | text piece => some piece
  | reasoning _ | call _ => none

def call? : Piece → Option ToolCallDelta
  | call tc => some tc
  | reasoning _ | text _ => none

end Piece

/-- The pieces of a delta, in the order in which they are read. -/
def ChatDelta.pieces (delta : ChatDelta) : List Piece :=
  (if chatResponsesReasoning delta = "" then []
    else [Piece.reasoning (chatResponsesReasoning delta)]) ++
  (if delta.content = "" then [] else [Piece.text delta.content]) ++
  delta.toolCalls.map Piece.call

def CompletionMessage.reasoningText (message : CompletionMessage) : String :=
  if message.reasoningContent ≠ "" then message.reasoningContent else message.reasoning

lemma messageOutput_content (d : Decoders) (mapper : Option ToolNames) (id : String)
    (message : CompletionMessage) :
    (messageOutput d mapper id message).flatMap OutputItem.reasoningTexts =
        [message.reasoningText].filter (· ≠ "") ∧
      ((messageOutput d mapper id message).flatMap OutputItem.messageTexts).filter (· ≠ "") =
        (if message.toolCalls = [] then [message.content].filter (· ≠ "") else []) ∧
      (messageOutput d mapper id message).filterMap OutputItem.toolContent? =
        message.toolCalls.map (callContent d mapper) := by
  obtain ⟨hr, hx, ht⟩ :=
    OutputItem.content_tools (completionToolItem_content d mapper) message.toolCalls
  unfold messageOutput
  rw [show (if message.reasoningContent ≠ "" then message.reasoningContent
    else message.reasoning) = message.reasoningText from rfl]
  by_cases hs : message.reasoningText = "" <;> by_cases hc : message.toolCalls = [] <;>
    simp [hs, hc, hr, hx, ht]

/-- The deltas of a call: the first one has its id and its name, later ones may repeat them,
and together they have its arguments. -/
structure CallSplit (index : ℤ) (call : CompletionToolCall) (deltas : List ToolCallDelta) :
    Prop where
  index : ∀ tc ∈ deltas, tc.index = index
  first : ∃ tc, deltas.head? = some tc ∧ tc.id = call.id ∧ tc.name = call.name
  ids : ∀ tc ∈ deltas, tc.id = "" ∨ tc.id = call.id
  names : ∀ tc ∈ deltas, tc.name = "" ∨ tc.name = call.name
  arguments : String.join (deltas.map ToolCallDelta.arguments) = call.arguments

/-- The deltas send the reasoning of a message, then its text, then its calls one after the
other: every call with its index and its deltas, in the order of the indexes. -/
structure MessageSplit (message : CompletionMessage) (sent : List (ℤ × List ToolCallDelta))
    (deltas : List ChatDelta) : Prop where
  pieces : ∃ reasoning text : List String,
    deltas.flatMap ChatDelta.pieces =
        reasoning.map .reasoning ++ text.map .text ++ (sent.flatMap Prod.snd).map .call ∧
      String.join reasoning = message.reasoningText ∧ String.join text = message.content
  order : (sent.map Prod.fst).Pairwise (· < ·)
  calls : List.Forall₂ (fun call part => CallSplit part.1 call part.2) message.toolCalls sent

section
variable {message : CompletionMessage} {sent : List (ℤ × List ToolCallDelta)}
  {ds : List ChatDelta}

lemma forall₂_comp {α β γ : Type*} {R : α → β → Prop} {S : β → γ → Prop} {as : List α}
    {bs : List β} {cs : List γ} (h : Forall₂ R as bs) (h' : Forall₂ S bs cs) :
    Forall₂ (Relation.Comp R S) as cs := by
  induction h generalizing cs with
  | nil =>
    cases h'
    exact .nil
  | cons hf _ ih =>
    cases h' with
    | cons hf' hr' => exact .cons ⟨_, hf, hf'⟩ (ih hr')

/-- The deltas with an index are those of the call with this index. -/
lemma filter_flatMap_parts {parts : List (ℤ × List ToolCallDelta)} (hk : (parts.map Prod.fst).Nodup)
    (hi : ∀ part ∈ parts, ∀ tc ∈ part.2, tc.index = part.1) (ix : ℤ) :
    (parts.flatMap Prod.snd).filter (fun tc => tc.index = ix) =
      (parts.lookup ix).getD [] := by
  induction parts with
  | nil => rfl
  | cons part parts ih =>
    obtain ⟨hn, hr⟩ := nodup_cons.mp hk
    rw [flatMap_cons, filter_append, ih hr fun other hot => hi other (mem_cons_of_mem _ hot)]
    have hp := hi part mem_cons_self
    by_cases hs : ix = part.1
    · have ha : part.2.filter (fun tc => tc.index = ix) = part.2 :=
        filter_eq_self.mpr fun tc ht => by simp [hp tc ht, hs]
      have hnn : parts.lookup ix = none := by
        by_contra ho
        rw [hs] at ho
        exact hn (lookup_ne_none_iff.mp ho)
      rw [ha, hnn, hs, lookup_cons, beq_self_eq_true]
      exact append_nil _
    · have hnn : part.2.filter (fun tc => tc.index = ix) = [] :=
        filter_eq_nil_iff.mpr fun tc ht => by simp [hp tc ht, Ne.symm hs]
      rw [hnn, nil_append, lookup_cons_of_ne hs]

lemma ChatDelta.join_reasoning (ds : List ChatDelta) :
    String.join ((ds.flatMap pieces).filterMap reasoning?) =
      .join (ds.map chatResponsesReasoning) := by
  rw [join_filterMap_flatMap]
  congr 2
  funext delta
  unfold pieces
  split_ifs <;> simp_all [reasoning?, filterMap_cons, comp_def]

lemma ChatDelta.join_text (ds : List ChatDelta) :
    String.join ((ds.flatMap pieces).filterMap text?) = .join (ds.map content) := by
  rw [join_filterMap_flatMap]
  congr 2
  funext delta
  unfold pieces
  split_ifs <;> simp_all [text?, filterMap_cons, comp_def]

lemma ChatDelta.calls_eq (ds : List ChatDelta) : (ds.flatMap pieces).filterMap call? =
      ds.flatMap toolCalls := by
  rw [filterMap_flatMap]
  congr 1
  funext delta
  unfold pieces
  split_ifs <;> simp [call?, filterMap_cons, comp_def]

namespace MessageSplit
variable (h : MessageSplit message sent ds)
include h

lemma reasoning_eq : String.join (ds.map chatResponsesReasoning) = message.reasoningText := by
  obtain ⟨rs, text, hp, hr, -⟩ := h.pieces
  rw [← join_reasoning, hp, ← hr]
  simp [reasoning?, comp_def, filterMap_map]

lemma text_eq : String.join (ds.map content) = message.content := by
  obtain ⟨rs, text, hp, -, ht⟩ := h.pieces
  rw [← join_text, hp, ← ht]
  simp [text?, comp_def, filterMap_map]

lemma calls_eq : ds.flatMap ChatDelta.toolCalls = sent.flatMap Prod.snd := by
  obtain ⟨rs, text, hp, -, -⟩ := h.pieces
  rw [← ChatDelta.calls_eq, hp]
  simp [call?, comp_def, filterMap_map]

lemma nodup : (sent.map Prod.fst).Nodup := h.order.imp ne_of_lt

lemma split_of_mem {part : ℤ × List ToolCallDelta}
    (hp : part ∈ sent) : ∃ call ∈ message.toolCalls, CallSplit part.1 call part.2 := by
  obtain ⟨hl, hz⟩ := forall₂_iff_zip.mp h.calls
  rw [← map_snd_zip hl.ge] at hp
  obtain ⟨⟨call, _⟩, hm, rfl⟩ := mem_map.mp hp
  exact ⟨call, (of_mem_zip hm).1, hz hm⟩

lemma filter_calls (ix : ℤ) : (ds.flatMap toolCalls).filter (fun tc => tc.index = ix) =
      (sent.lookup ix).getD [] := by
  rw [h.calls_eq]
  refine filter_flatMap_parts h.nodup (fun part hp => ?_) ix
  obtain ⟨call, -, hsplit⟩ := h.split_of_mem hp
  exact hsplit.index

end MessageSplit

end

namespace ChatToResponsesStream

/-! ## The entry of a call -/

/-- Later deltas of a call leave the pair that its name was restored to. -/
def KeepsName (mapper : Option ToolNames) (name : String) : Prop :=
  ∀ again ∈ ["", name],
    restoredAgain mapper (restoredName mapper name) again = restoredName mapper name

variable {mapper : Option ToolNames}

section
variable {ds : List ToolCallDelta} {t : ChatResponsesToolCall}

lemma restoredAgain_empty (mapper : Option ToolNames) (name : String) :
    restoredAgain mapper ("", "") name = restoredName mapper name := by
  simp [restoredAgain]

namespace Held
variable (h : Held mapper ds t)
include h

lemma pair_eq : (t.toolNamespace, t.name) =
    (ds.map ToolCallDelta.name).foldl (restoredAgain mapper) ("", "") := by
  induction h with
  | first tc s =>
    rw [(updated_new mapper tc s).1]
    exact (restoredAgain_empty mapper tc.name).symm
  | next hh tc ih =>
    rw [(updated_known mapper tc hh.callID_ne).1, ih]
    simp

lemma arguments_eq : t.arguments = String.join (ds.map ToolCallDelta.arguments) := by
  induction h with
  | first tc s =>
    rw [(updated_new mapper tc s).2.2.2]
    simp
  | next hh tc ih =>
    rw [(updated_known mapper tc hh.callID_ne).2.2.2, ih]
    simp

lemma kept {name : String} (hkp : KeepsName mapper name)
    (hf : ∀ tc, ds.head? = some tc → tc.name = name)
    (hn : ∀ tc ∈ ds, tc.name = "" ∨ tc.name = name) :
    (t.toolNamespace, t.name) = restoredName mapper name ∧
      t.isCustom = isCustomCall mapper t.name := by
  induction h with
  | first tc s =>
    obtain ⟨hp, hc, -⟩ := updated_new mapper tc s
    rw [hf tc rfl] at hp
    exact ⟨hp, hc⟩
  | @next ds t hh tc ih =>
    rw [head?_append_of_ne_nil _ hh.ne_nil] at hf
    obtain ⟨hb, hk⟩ := ih hf fun tc ht => hn tc (mem_append_left _ ht)
    obtain ⟨hp, hc, -⟩ := updated_known mapper tc hh.callID_ne
    have hg : tc.name ∈ ["", name] := by simpa using hn tc (by simp)
    have ha := hp.trans (by rw [hb, hkp tc.name hg, ← hb])
    refine ⟨ha.trans hb, ?_⟩
    rw [hc, hk, (Prod.mk.inj ha).2, Bool.or_self]

end Held

end

/-! ## All deltas -/

/-- What a running machine has gathered from the deltas. -/
structure Gathered (mapper : Option ToolNames) (fed : List ChatDelta) (s : ChatToResponsesStream) :
    Prop where
  running : s.finished = false
  names : s.mapper = mapper
  reasoning : s.fullReasoning = String.join (fed.map chatResponsesReasoning)
  text : s.fullText = String.join (fed.map ChatDelta.content)
  noReasoning : s.reasoningOutputIndex = none ↔ s.fullReasoning = ""
  noText : s.textOutputIndex = none ↔ s.fullText = ""
  calls : Entries mapper (fed.flatMap ChatDelta.toolCalls) s.localToolCalls

section
variable {fed : List ChatDelta} {s s' : ChatToResponsesStream}

lemma Gathered.like (h : Gathered mapper fed s) (hl : Like s s') : Gathered mapper fed s' where
  running := hl.finished.trans h.running
  names := hl.mapper.trans h.names
  reasoning := hl.fullReasoning.trans h.reasoning
  text := hl.fullText.trans h.text
  noReasoning := by rw [hl.reasoning, hl.fullReasoning, h.noReasoning]
  noText := by rw [hl.text, hl.fullText, h.noText]
  calls := by rw [hl.calls]; exact h.calls

lemma Gathered.step (h : Gathered mapper fed s) (delta : ChatDelta) :
    Gathered mapper (fed ++ [delta]) (feedDelta delta s).2 := by
  obtain ⟨evs, rs, text, next, hd, hr, ht⟩ := feedDelta_eq delta s
  rw [hd, TokenliveGateway.chain]
  generalize hm : ({ s with
    reasoningOutputIndex := rs
    textOutputIndex := text
    currentOutputIndex := next
    fullReasoning := s.fullReasoning ++ chatResponsesReasoning delta
    fullText := s.fullText ++ delta.content } : ChatToResponsesStream) = middle
  have hc : Entries middle.mapper (fed.flatMap toolCalls) middle.localToolCalls := by
    rw [← hm]
    exact h.names ▸ h.calls
  have he := hc.steps delta.toolCalls
  obtain ⟨next', calls, hs⟩ := toolCalls_state delta.toolCalls middle
  rw [hs] at he
  rw [hs, ← hm]
  rw [← hm] at he
  refine ⟨h.running, h.names, ?_, ?_, ?_, ?_, ?_⟩
  · simp [h.reasoning]
  · simp [h.text]
  · simp [hr, h.noReasoning]
  · simp [ht, h.noText]
  · rw [flatMap_append, flatMap_singleton]
    exact h.names ▸ he

lemma Gathered.frames (d : Decoders) (model : String) (usage : TokenUsage) (fs : List Frame) :
    Gathered mapper (frameDeltas d fs)
      (chainAll (feed d) fs { model := model, mapper := mapper, usage := usage }).2 := by
  refine frames_induction (P := fun fed r => Gathered mapper fed r.2) ?_ ?_ ?_ ?_ fs
  · exact fun fed r h => h.running
  · exact fun fed r evs s' h hl => h.like hl
  · exact fun fed r delta h => h.step delta
  · exact ⟨rfl, rfl, rfl, rfl, by simp, by simp, ⟨nodup_nil, by simp, by simp⟩⟩

end

/-! ## The final response -/

/-- The content of the item of a call that was streamed. -/
def entryContent (d : Decoders) (t : ChatResponsesToolCall) : ToolContent :=
  toolContent d t.isCustom t.callID (t.toolNamespace, t.name) t.arguments

lemma closeToolCall_content (d : Decoders) (respID : String) (t : ChatResponsesToolCall) :
    (closeToolCall d respID t).2.toolContent? = some (entryContent d t) := by
  unfold closeToolCall entryContent toolContent toolItem
  cases t.isCustom <;> rfl

lemma called_of_content {d : Decoders} {t : ChatResponsesToolCall} {call : CompletionToolCall}
    (h : entryContent d t = callContent d mapper call) :
    t.callID = call.id ∧ (t.toolNamespace, t.name) = restoredName mapper call.name := by
  obtain ⟨-, hc, hs, hn, -⟩ := ToolContent.mk.inj h
  exact ⟨hc, Prod.ext hs hn⟩

/-- A call with an id whose name is kept has the content of the call that is not streamed. -/
lemma Held.content_eq {ix : ℤ} {call : CompletionToolCall} {ds : List ToolCallDelta}
    {t : ChatResponsesToolCall} (h : Held mapper ds t) (hsplit : CallSplit ix call ds)
    (hi : call.id ≠ "") (hp : KeepsName mapper call.name) (d : Decoders) :
    entryContent d t = callContent d mapper call := by
  obtain ⟨tc, hf, ht, htn⟩ := hsplit.first
  have hc : t.callID = call.id := by
    rw [h.callID_eq hf (by rwa [ht]), ht]
  have hn : ∀ other, ds.head? = some other → other.name = call.name := by
    intro other ho
    rw [hf, Option.some.injEq] at ho
    rw [← ho, htn]
  obtain ⟨hr, hk⟩ := h.kept hp hn hsplit.names
  have ha : t.arguments = call.arguments := h.arguments_eq.trans hsplit.arguments
  unfold entryContent callContent
  rw [hc, hk, ha, ← hr]

section
variable {fed : List ChatDelta} {s : ChatToResponsesStream}
  {message : CompletionMessage} {sent : List (ℤ × List ToolCallDelta)}

variable (h : Gathered mapper fed s)
include h

/-- The texts and the calls of the final response. -/
lemma Gathered.closing_content (d : Decoders) :
    (closing d s).2.flatMap OutputItem.reasoningTexts = [s.fullReasoning].filter (· ≠ "") ∧
      ((closing d s).2.flatMap OutputItem.messageTexts).filter (· ≠ "") =
        [s.fullText].filter (· ≠ "") ∧
      (closing d s).2.filterMap OutputItem.toolContent? =
        (sortedToolCalls s).map (entryContent d) := by
  obtain ⟨hr, hx, ht⟩ :=
    OutputItem.content_tools (closeToolCall_content d s.respID) (sortedToolCalls s)
  have hs : s.closeReasoning.2 = if s.fullReasoning = "" then []
      else [.reasoning s.reasoningID [s.fullReasoning] "" "completed"] := by
    rw [← if_congr h.noReasoning rfl rfl, closeReasoning]
    cases s.reasoningOutputIndex <;> simp
  have hm : s.closeMessage.2 = if s.fullText = "" then []
      else [.message s.msgID "completed" [s.fullText]] := by
    rw [← if_congr h.noText rfl rfl, closeMessage]
    cases s.textOutputIndex <;> simp
  have hc : (closing d s).2 = s.closeReasoning.2 ++ s.closeMessage.2 ++
      (sortedToolCalls s).map fun t => (closeToolCall d s.respID t).2 := by
    simp [closing]
  rw [hc, hs, hm]
  by_cases he : s.fullReasoning = "" <;> by_cases he' : s.fullText = "" <;>
    simp [he, he', hr, hx, ht]

variable (hsplit : MessageSplit message sent fed)
include hsplit

/-- Every call that was sent has its entry, in the order in which the calls were sent. -/
lemma Gathered.sorted_calls :
    Forall₂ (fun part t => Held mapper part.2 t) sent (sortedToolCalls s) := by
  have hm : ∀ ix, ix ∈ sent.map Prod.fst ↔ s.localToolCalls.lookup ix ≠ none := by
    intro ix
    constructor
    · intro hi hn
      obtain ⟨⟨ix, ds⟩, hp, rfl⟩ := mem_map.mp hi
      have hf := hsplit.filter_calls ix
      rw [h.calls.absent ix hn, lookup_eq_some_of_mem hsplit.nodup hp] at hf
      obtain ⟨call, -, hc⟩ := hsplit.split_of_mem hp
      obtain ⟨tc, hr, -⟩ := hc.first
      have he : ds = [] := hf.symm
      rw [he] at hr
      cases hr
    · intro ho
      obtain ⟨t, ht⟩ := Option.ne_none_iff_exists'.mp ho
      have hh := (h.calls.held ix t ht).ne_nil
      rw [hsplit.filter_calls] at hh
      rw [← lookup_ne_none_iff]
      intro hn
      rw [hn] at hh
      exact hh rfl
  have hs := forall₂_insertionSort (· ≤ ·) h.calls.keys hsplit.nodup (hsplit.order.imp le_of_lt) hm
  rw [forall₂_map_left_iff] at hs
  obtain ⟨hl, hz⟩ := forall₂_iff_zip.mp hs
  refine forall₂_iff_zip.mpr ⟨hl, fun {part t} hpr => ?_⟩
  have hh := h.calls.held part.1 t (hz hpr)
  rw [hsplit.filter_calls, lookup_eq_some_of_mem hsplit.nodup (of_mem_zip hpr).1] at hh
  exact hh

lemma Gathered.calls_held : Forall₂ (fun call t => ∃ part : ℤ × List ToolCallDelta,
        CallSplit part.1 call part.2 ∧ Held mapper part.2 t)
      message.toolCalls (sortedToolCalls s) :=
  forall₂_comp hsplit.calls (h.sorted_calls hsplit)

/-- When the final response has the content of the answer that is not streamed. -/
lemma Gathered.sameContent_iff (d : Decoders) (id : String) :
    SameContent (closing d s).2 (messageOutput d mapper id message) ↔
      (message.toolCalls = [] ∨ message.content = "") ∧ (sortedToolCalls s).map (entryContent d) =
          message.toolCalls.map (callContent d mapper) := by
  obtain ⟨hr, ht, hl⟩ := h.closing_content d
  obtain ⟨hr', ht', hl'⟩ := messageOutput_content d mapper id message
  rw [h.reasoning, hsplit.reasoning_eq] at hr
  rw [h.text, hsplit.text_eq] at ht
  have hx : [message.content].filter (· ≠ "") =
      (if message.toolCalls = [] then [message.content].filter (· ≠ "") else []) ↔
      message.toolCalls = [] ∨ message.content = "" := by
    by_cases hc : message.toolCalls = [] <;> simp [hc]
  rw [← hx, ← ht', ← ht, ← hl, ← hl']
  exact ⟨fun hs => ⟨hs.texts, hs.tools⟩, fun hs => ⟨hr.trans hr'.symm, hs.1, hs.2⟩⟩

omit hsplit

omit h

lemma finish_response (hs : s.started = true ∧ s.finished = false) (d : Decoders) (now : ℤ)
    (latestUsage : TokenUsage) :
    ∃ response, ((finish d now latestUsage s).1.map ResponsesStreamEvent.event).getLast? =
        some (.completed response) ∧ response.output = (closing d s).2 := by
  unfold finish
  rw [if_neg (by simp [hs.2])]
  rw [if_neg (by simp [hs.1]), map_append, getLast?_append]
  exact ⟨_, rfl, rfl⟩

end

/-- The final response of every stream of a message has the content of the answer that is not
streamed. -/
def StreamAgrees (mapper : Option ToolNames) (message : CompletionMessage) : Prop :=
  ∀ d model usage latestUsage now frames sent, MessageSplit message sent (frameDeltas d frames) →
    (∃ frame ∈ frames, IsChunk d frame.2) →
    ∀ decode now' body model' completion others, decode body = .ok completion →
      completion.choices = message :: others →
      ∃ streamed completed,
        (answer d frames now latestUsage
            { model := model, mapper := mapper, usage := usage }).getLast? =
          some (.completed streamed) ∧
        chatCompletionToResponses d decode now' body model' mapper = .ok completed ∧
        SameContent streamed.output completed.body.output

section
variable {message : CompletionMessage}

variable (mapper) in
lemma streamed_and_completed (d : Decoders) (model : String) (usage latestUsage : TokenUsage)
    (now : ℤ) {fs : List Frame} (hh : ∃ frame ∈ fs, IsChunk d frame.2)
    {dec : Bytes → Except String ChatCompletion} (now' : ℤ) {body : Bytes} (model' : String)
    {completion : ChatCompletion} {os : List CompletionMessage}
    (hd : dec body = .ok completion) (hc : completion.choices = message :: os) :
    ∃ s streamed completed, Gathered mapper (frameDeltas d fs) s ∧
      (answer d fs now latestUsage
          { model := model, mapper := mapper, usage := usage }).getLast? =
        some (.completed streamed) ∧
      chatCompletionToResponses d dec now' body model' mapper = .ok completed ∧
      streamed.output = (closing d s).2 ∧
      completed.body.output = messageOutput d mapper completion.id message := by
  have hg : Gathered mapper (frameDeltas d fs) _ := .frames d model usage fs
  have hr := frames_started (s := { model := model, mapper := mapper, usage := usage }) rfl hh
  obtain ⟨streamed, hlast, hs⟩ := finish_response hr d now latestUsage
  obtain ⟨completed, hm, ho⟩ := chatCompletionToResponses_output d now' model' mapper hd hc
  refine ⟨_, streamed, completed, hg, ?_, hm, hs, ho⟩
  rw [answer, map_append, getLast?_append, hlast]
  rfl

/-! ## A stream in which every call has two deltas -/

/-- The calls of a message, each sent at once and then named again. -/
def sentTwice (again : CompletionToolCall → String) (calls : List CompletionToolCall) :
    List (ℤ × List ToolCallDelta) :=
  calls.zipIdx.map fun entry => ((entry.2 : ℤ),
    [{ index := entry.2, id := entry.1.id, name := entry.1.name, arguments := entry.1.arguments },
      { index := entry.2, name := again entry.1 }])

def wholeDelta (message : CompletionMessage) (sent : List (ℤ × List ToolCallDelta)) :
    ChatDelta where
  content := message.content
  reasoningContent := message.reasoningText
  toolCalls := sent.flatMap Prod.snd

lemma messageSplit_sentTwice {again : CompletionToolCall → String}
    (ha : ∀ call, again call = "" ∨ again call = call.name) (message : CompletionMessage) :
    MessageSplit message (sentTwice again message.toolCalls)
      [wholeDelta message (sentTwice again message.toolCalls)] := by
  generalize hs : sentTwice again message.toolCalls = sent
  refine ⟨⟨[message.reasoningText].filter (· ≠ ""), [message.content].filter (· ≠ ""), ?_, ?_, ?_⟩,
    ?_, ?_⟩
  · have hr : chatResponsesReasoning (wholeDelta message sent) = message.reasoningText := by
      unfold chatResponsesReasoning wholeDelta
      split_ifs with he
      · rfl
      · exact (not_not.mp he).symm
    rw [flatMap_singleton, pieces, hr]
    by_cases he : message.reasoningText = "" <;> by_cases he' : message.content = "" <;>
      simp [wholeDelta, he, he']
  · by_cases he : message.reasoningText = "" <;> simp [he]
  · by_cases he : message.content = "" <;> simp [he]
  · have hk : sent.map Prod.fst = (range' 0 message.toolCalls.length).map Nat.cast := by
      rw [← zipIdx_map_snd, map_map, ← hs, sentTwice, map_map]
      rfl
    rw [hk, pairwise_map]
    exact (pairwise_lt_range' 1).imp Int.ofNat_lt.mpr
  · have hc : Forall₂ (fun call entry => entry.1 = call) message.toolCalls
        message.toolCalls.zipIdx := by
      have hm : Forall₂ (fun call entry => entry.1 = call)
          (message.toolCalls.zipIdx.map Prod.fst) message.toolCalls.zipIdx := by
        rw [forall₂_map_left_iff, forall₂_same]
        exact fun _ _ => rfl
      rwa [zipIdx_map_fst] at hm
    rw [← hs, sentTwice, forall₂_map_right_iff]
    refine hc.imp fun call entry hn => ?_
    subst hn
    refine ⟨by simp, ⟨_, rfl, rfl, rfl⟩, by simp, ?_, by simp⟩
    simpa using ha entry.1

lemma StreamAgrees.sentTwice (h : StreamAgrees mapper message) (again : CompletionToolCall → String)
    (hag : ∀ call, again call = "" ∨ again call = call.name) :
    (message.toolCalls = [] ∨ message.content = "") ∧ ∀ call ∈ message.toolCalls, call.id ≠ "" ∧
        restoredAgain mapper (restoredName mapper call.name) (again call) =
          restoredName mapper call.name := by
  let sent := ChatToResponsesStream.sentTwice again message.toolCalls
  let d := decodesTo { choices := [{ delta := wholeDelta message sent }] }
  have hh : ∃ frame ∈ [((0 : ℤ), ([] : Bytes))], IsChunk d frame.2 :=
    ⟨_, mem_singleton_self _, by decide, rfl⟩
  have hd : frameDeltas d [(0, [])] = [wholeDelta message sent] := rfl
  have hsplit : MessageSplit message sent (frameDeltas d [(0, [])]) :=
    messageSplit_sentTwice hag message
  let decode : Bytes → Except String ChatCompletion := fun _ => .ok { choices := [message] }
  obtain ⟨streamed, completed, hlast, hc, hs⟩ :=
    h d "" {} {} 0 [(0, [])] sent hsplit hh decode 0 [] "" { choices := [message] } [] rfl rfl
  obtain ⟨s, streamed', completed', hg, hlast', hc', hst, ho⟩ :=
    streamed_and_completed mapper d "" {} {} 0 hh 0 ""
      (show decode [] = .ok { choices := [message] } from rfl) rfl
  obtain rfl : streamed = streamed' := by
    simpa using hlast.symm.trans hlast'
  obtain rfl : completed = completed' := Except.ok.inj (hc.symm.trans hc')
  rw [hst, ho, hg.sameContent_iff hsplit] at hs
  obtain ⟨hte, htl⟩ := hs
  rw [← zipIdx_map_fst 0 message.toolCalls, map_map, ← forall₂_eq_eq_eq,
    forall₂_map_left_iff, forall₂_map_right_iff] at htl
  -- every call with its entry, which has the content of the call
  have hl := hg.sorted_calls hsplit
  rw [show sent = ChatToResponsesStream.sentTwice again message.toolCalls from rfl,
    ChatToResponsesStream.sentTwice, forall₂_map_left_iff] at hl
  have hen := forall₂_same.mp (forall₂_comp hl htl)
  refine ⟨hte, fun call ha => ?_⟩
  rw [← zipIdx_map_fst 0 message.toolCalls] at ha
  obtain ⟨entry, he, rfl⟩ := mem_map.mp ha
  obtain ⟨t, ht, hn⟩ := hen entry he
  obtain ⟨hi, hp⟩ := called_of_content hn
  refine ⟨hi ▸ ht.callID_ne, ?_⟩
  refine Eq.trans ?_ (ht.pair_eq.symm.trans hp)
  rw [← restoredAgain_empty]
  rfl

/-- The final response of every stream of a message has the content of the answer that is not
streamed exactly if the message has no text beside its calls, every call has an id, and the
pair that its name is restored to is kept. -/
theorem stream_agrees_iff (mapper : Option ToolNames) (message : CompletionMessage) :
    StreamAgrees mapper message ↔ (message.toolCalls = [] ∨ message.content = "") ∧
        ∀ call ∈ message.toolCalls, call.id ≠ "" ∧ KeepsName mapper call.name := by
  constructor
  · intro h
    obtain ⟨ht, hm⟩ := h.sentTwice (fun _ => "") fun _ => .inl rfl
    obtain ⟨-, hn⟩ := h.sentTwice CompletionToolCall.name fun _ => .inr rfl
    refine ⟨ht, fun call hc => ⟨(hm call hc).1, ?_⟩⟩
    simp only [KeepsName, forall_mem_cons, not_mem_nil, false_implies, implies_true, and_true]
    exact ⟨(hm call hc).2, (hn call hc).2⟩
  · rintro ⟨ht, hl⟩ d model usage latestUsage now frames sent hsplit hch decode now' body
      model' completion others hd hh
    obtain ⟨s, streamed, completed, hg, hlast, hcm, hs, ho⟩ :=
      streamed_and_completed mapper d model usage latestUsage now hch now' model' hd hh
    refine ⟨streamed, completed, hlast, hcm, ?_⟩
    rw [hs, ho, hg.sameContent_iff hsplit]
    refine ⟨ht, Eq.symm ?_⟩
    rw [← forall₂_eq_eq_eq, forall₂_map_left_iff, forall₂_map_right_iff]
    have hhl := (forall₂_and_left _ _ ).mpr ⟨hl, hg.calls_held hsplit⟩
    refine hhl.imp fun call t => ?_
    rintro ⟨⟨hi, hk⟩, part, hc, he⟩
    exact (he.content_eq hc hi hk d).symm

end

def textAndCall : CompletionMessage where
  content := "hi"
  toolCalls := [{ id := "call_1", name := "f", arguments := "1" }]

def callSent : List (ℤ × List ToolCallDelta) :=
  [(0, [{ index := 0, id := "call_1", name := "f", arguments := "1" }])]

/-- A decoder that reads the whole message in one chunk. -/
def wholeDecoders : Decoders :=
  decodesTo { choices := [{ delta := wholeDelta textAndCall callSent }] }

/-- The text beside the call is in the final response of the stream, and not in the answer that
is not streamed. -/
theorem text_dropped_beside_call :
    MessageSplit textAndCall callSent (frameDeltas wholeDecoders [(0, [])]) ∧ (∃ streamed completed,
        (answer wholeDecoders [(0, [])] 0 {}
            { model := "", mapper := none, usage := {} }).getLast? =
          some (.completed streamed) ∧
        chatCompletionToResponses wholeDecoders (fun _ => .ok { choices := [textAndCall] }) 0 [] ""
          none = .ok completed ∧
        streamed.output.flatMap OutputItem.messageTexts = ["hi"] ∧
        completed.body.output.flatMap OutputItem.messageTexts = []) ∧
      ¬StreamAgrees none textAndCall := by
  refine ⟨⟨⟨[], ["hi"], rfl, rfl, rfl⟩, by decide, ?_⟩, ⟨_, _, rfl, rfl, rfl, rfl⟩, fun h => ?_⟩
  · exact .cons ⟨by decide, ⟨_, rfl, rfl, rfl⟩, by decide, by decide, rfl⟩ .nil
  · exact absurd (h.sentTwice (fun _ => "") fun _ => .inl rfl).1 (by decide)

end ChatToResponsesStream
end TokenliveGateway
