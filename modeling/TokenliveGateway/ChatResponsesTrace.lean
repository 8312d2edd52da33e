import TokenliveGateway.ChatToolCalls
import TokenliveGateway.RequestTools
import TokenliveGateway.ResponseItems

/-!
# Chat streams become well-formed Responses streams

`ChatToResponsesStream` opens items of three kinds when it first needs them and closes all
of them in `Finish`. A ledger of the announced items follows the machine: every index that
was given out belongs to one item, and every event about an item fits what was announced.
This breaks only if the name of a call is restored to an empty one, since such a call is
never announced.
-/
namespace TokenliveGateway
open ResponsesEvent OutputItem
open EventStreams GoStrings ItemStreams KeyedEntries LabelledRuns List ResponsesStreamEvent

/-- The first delta of every call has a name. -/
def FirstNamed (calls : List ToolCallDelta) : Prop :=
  ∀ front tc rest, calls = front ++ tc :: rest → (∀ other ∈ front, other.index ≠ tc.index) →
    tc.name ≠ ""

namespace ChatToResponsesStream

/-- The output indices in use. -/
def indexes (s : ChatToResponsesStream) : List ℕ :=
  s.reasoningOutputIndex.toList ++ s.textOutputIndex.toList ++
    s.localToolCalls.map fun entry => entry.2.outputIndex

/-- The ledger has exactly the items of a running machine to which the deltas `fed` were
given, all of them open. -/
structure Keeps (names : ToolNames) (id : String) (fed : List ToolCallDelta)
    (s : ChatToResponsesStream) (ledger : ItemStreams.Ledger OutputItem) : Prop where
  mapper : s.mapper = some names
  responseID : s.lastResponseID = id
  running : s.started = true ∧ s.finished = false
  closed : ledger.closed = []
  length : ledger.items.length = s.currentOutputIndex
  reasoning : ∀ i, s.reasoningOutputIndex = some i →
    ledger.items[i]? = some (.reasoning s.reasoningID [] "" "")
  message : ∀ i, s.textOutputIndex = some i →
    ledger.items[i]? = some (.message s.msgID "in_progress" [])
  tools : ∀ index t, s.localToolCalls.lookup index = some t →
    Settled (some names) t ∧ t.added = true ∧
      ledger.items[t.outputIndex]? = some (toolItem t "in_progress" "")
  keys : (s.localToolCalls.map Prod.fst).Nodup
  indexes : s.indexes.Perm (List.range s.currentOutputIndex)
  fed : ∀ tc ∈ fed, s.localToolCalls.lookup tc.index ≠ none

/-- A step whose events are all about items and fit the ledger. -/
def Follows (names : ToolNames) (id : String) (fed : List ToolCallDelta)
    (ledger : ItemStreams.Ledger OutputItem) (r : Step) : Prop :=
  ∃ ledger', Trace (ItemStreams.Step OutputItem.Refers OutputItem.Same) ledger
      (r.1.filterMap fun e => e.event.mark) ledger' ∧
    (∀ e ∈ r.1, e.event.mark ≠ none) ∧ Keeps names id fed r.2 ledger'

section
variable {ns : ToolNames} {id : String} {fed fed' : List ToolCallDelta}
  {s : ChatToResponsesStream} {ledger : ItemStreams.Ledger OutputItem} {r : Step}

lemma Follows.nothing (hs : Keeps ns id fed s ledger) : Follows ns id fed ledger ([], s) :=
  ⟨ledger, .nil, by simp, hs⟩

lemma Follows.chain {f : ChatToResponsesStream → Step} (hr : Follows ns id fed ledger r)
    (hf : ∀ ledger', Keeps ns id fed r.2 ledger' → Follows ns id fed' ledger' (f r.2)) :
    Follows ns id fed' ledger (chain r f) := by
  obtain ⟨ledger', ht, hm, hk⟩ := hr
  obtain ⟨ledger'', ht', hm', hk'⟩ := hf ledger' hk
  refine ⟨ledger'', ?_, ?_, hk'⟩
  · rw [TokenliveGateway.chain, filterMap_append]
    exact ht.append ht'
  · intro e he
    rcases mem_append.mp he with he | he
    · exact hm e he
    · exact hm' e he

variable {i : ℕ} {tc : ToolCallDelta} {t : ChatResponsesToolCall} {cs rest : List ToolCallDelta}
  {frame : Frame} {chunk : ChatChunk} (d : Decoders)

/-- An event that announces the next item. -/
lemma Follows.opens {item : OutputItem} {e : ResponsesStreamEvent}
    (hm : e.event.mark = some (.opens ledger.items.length item))
    (hs : Keeps ns id fed s { ledger with items := ledger.items ++ [item] }) :
    Follows ns id fed ledger ([e], s) := by
  refine ⟨_, ?_, ?_, hs⟩
  · rw [filterMap_cons, hm]
    exact .single (.opens ledger item)
  · intro e' he'
    obtain rfl := mem_singleton.mp he'
    rw [hm]
    exact Option.some_ne_none _

lemma getElem?_concat_of_some {α : Type*} {l : List α} {a : α} (h : l[i]? = some a) (b : α) :
    (l ++ [b])[i]? = some a := by
  obtain ⟨hl, -⟩ := List.getElem?_eq_some_iff.mp h
  rw [List.getElem?_append_left hl, h]

lemma perm_range_succ {n : ℕ} {pre back : List ℕ} (h : (pre ++ back).Perm (range n)) :
    (pre ++ n :: back).Perm (range (n + 1)) := by
  rw [range_succ]
  exact perm_middle.trans ((h.cons n).trans (perm_append_singleton _ _).symm)

section Keeping
variable (hs : Keeps ns id fed s ledger)
include hs

/-- An event about an item that is open. -/
lemma Follows.uses {item : OutputItem}
    (hi : ledger.items[i]? = some item) {e : ResponsesStreamEvent}
    (hm : e.event.mark = some (.uses i e.event)) (hr : item.Refers e.event) :
    Follows ns id fed ledger ([e], s) := by
  refine ⟨ledger, ?_, ?_, hs⟩
  · rw [filterMap_cons, hm]
    exact .single (.uses hi (by rw [hs.closed]; exact not_mem_nil) hr)
  · intro e' he'
    obtain rfl := mem_singleton.mp he'
    rw [hm]
    exact Option.some_ne_none _

lemma getElem?_next (item : OutputItem) :
    (ledger.items ++ [item])[s.currentOutputIndex]? = some item := by
  rw [← hs.length]
  exact getElem?_concat_length

/-! ## Reasoning and text -/

lemma Keeps.openReasoning (hnn : s.reasoningOutputIndex = none) : Keeps ns id fed { s with
        reasoningOutputIndex := some s.currentOutputIndex
        currentOutputIndex := s.currentOutputIndex + 1 }
      { ledger with items := ledger.items ++ [.reasoning s.reasoningID [] "" ""] } where
  __ := hs
  length := by rw [length_append, hs.length]; rfl
  reasoning := by
    intro i hi
    obtain rfl : s.currentOutputIndex = i := by simpa using hi
    exact getElem?_next hs _
  message := fun i hi => getElem?_concat_of_some (hs.message i hi) _
  tools := by
    intro ix t ht
    obtain ⟨hst, ha, hit⟩ := hs.tools ix t ht
    exact ⟨hst, ha, getElem?_concat_of_some hit _⟩
  indexes := by
    have hn := hs.indexes
    unfold ChatToResponsesStream.indexes at hn ⊢
    rw [hnn] at hn
    exact @perm_range_succ _ [] _ hn

lemma Keeps.openMessage (hnn : s.textOutputIndex = none) : Keeps ns id fed { s with
        textOutputIndex := some s.currentOutputIndex
        currentOutputIndex := s.currentOutputIndex + 1 }
      { ledger with items := ledger.items ++ [.message s.msgID "in_progress" []] } where
  __ := hs
  length := by rw [length_append, hs.length]; rfl
  reasoning := fun i hi => getElem?_concat_of_some (hs.reasoning i hi) _
  message := by
    intro i hi
    obtain rfl : s.currentOutputIndex = i := by simpa using hi
    exact getElem?_next hs _
  tools := by
    intro ix t ht
    obtain ⟨hst, ha, hit⟩ := hs.tools ix t ht
    exact ⟨hst, ha, getElem?_concat_of_some hit _⟩
  indexes := by
    have hn := hs.indexes
    unfold ChatToResponsesStream.indexes at hn ⊢
    rw [hnn, Option.toList_none, append_nil] at hn
    rw [Option.toList_some, append_assoc, singleton_append]
    exact perm_range_succ hn

lemma Keeps.emitReasoning (hi : s.reasoningOutputIndex = some i) (delta : String) :
    Follows ns id fed ledger
      ([⟨.reasoningTextDelta s.respID s.reasoningID i delta, delta.utf8ByteSize⟩], s) :=
  .uses hs (hs.reasoning i hi) rfl rfl

lemma Keeps.emitText (hi : s.textOutputIndex = some i) (text : String) : Follows ns id fed ledger
      ([⟨.outputTextDelta s.respID s.msgID i text, text.utf8ByteSize⟩], s) :=
  .uses hs (hs.message i hi) rfl rfl

end Keeping

lemma sendResponsesReasoningDelta_follows (delta : String) (hs : Keeps ns id fed s ledger) :
    Follows ns id fed ledger (sendResponsesReasoningDelta delta s) := by
  unfold sendResponsesReasoningDelta
  cases hi : s.reasoningOutputIndex with
  | some i => exact hs.emitReasoning hi delta
  | none =>
    have ho := hs.openReasoning hi
    -- the item is announced, then its part
    have ht : Follows ns id fed ledger
        ([⟨.outputItemAdded s.respID s.currentOutputIndex (.reasoning s.reasoningID [] "" ""), 0⟩],
          { s with
            reasoningOutputIndex := some s.currentOutputIndex
            currentOutputIndex := s.currentOutputIndex + 1 }) :=
      .opens (by rw [hs.length]; rfl) ho
    have hp := ht.chain (f := fun s' =>
      ([⟨.reasoningPartAdded s.respID s.reasoningID s.currentOutputIndex, 0⟩], s'))
      fun ledger' hs' => .uses hs' (hs'.reasoning s.currentOutputIndex rfl) rfl rfl
    exact hp.chain fun ledger' hs' => hs'.emitReasoning rfl delta

lemma sendPlainResponsesText_follows (text : String) (hs : Keeps ns id fed s ledger) :
    Follows ns id fed ledger (sendPlainResponsesText text s) := by
  unfold sendPlainResponsesText
  cases hi : s.textOutputIndex with
  | some i => exact hs.emitText hi text
  | none =>
    have ho := hs.openMessage hi
    have ht : Follows ns id fed ledger
        ([⟨.outputItemAdded s.respID s.currentOutputIndex (.message s.msgID "in_progress" []), 0⟩],
          { s with
            textOutputIndex := some s.currentOutputIndex
            currentOutputIndex := s.currentOutputIndex + 1 }) :=
      .opens (by rw [hs.length]; rfl) ho
    have hp := ht.chain (f := fun s' =>
      ([⟨.contentPartAdded s.respID s.msgID s.currentOutputIndex, 0⟩], s'))
      fun ledger' hs' => .uses hs' (hs'.message s.currentOutputIndex rfl) rfl rfl
    exact hp.chain fun ledger' hs' => hs'.emitText rfl text

lemma feedReasoning_follows (rs : String) (hs : Keeps ns id fed s ledger) :
    Follows ns id fed ledger (feedReasoning rs s) := by
  unfold feedReasoning
  split_ifs
  · exact .nothing hs
  · exact (sendResponsesReasoningDelta_follows rs hs).chain fun ledger' hs' =>
      .nothing { hs' with }

lemma feedText_follows (text : String) (hs : Keeps ns id fed s ledger) :
    Follows ns id fed ledger (feedText text s) := by
  unfold feedText
  split_ifs
  · exact .nothing hs
  · exact (sendPlainResponsesText_follows text hs).chain fun ledger' hs' =>
      .nothing { hs' with }

/-! ## Tool calls -/

section Keeping
variable (hs : Keeps ns id fed s ledger)
include hs

lemma argumentsEvents_follows
    (hi : ledger.items[t.outputIndex]? = some (toolItem t "in_progress" "")) (args : String) :
    Follows ns id fed ledger (argumentsEvents s.respID t args, s) := by
  unfold argumentsEvents
  split_ifs with hc
  · exact .nothing hs
  · rw [toolItem, if_neg hc] at hi
    exact .uses hs hi rfl ⟨rfl, fun given hg => (Option.mem_some.mp hg).symm⟩

lemma Keeps.known (ht : s.localToolCalls.lookup tc.index = some t) (arguments : String) :
    Keeps ns id (fed ++ [tc]) { s with
        localToolCalls := putToolCall tc.index { t with added := true, arguments := arguments }
          s.localToolCalls }
      ledger := by
  obtain ⟨hst, ha, hit⟩ := hs.tools tc.index t ht
  refine ⟨hs.mapper, hs.responseID, hs.running, hs.closed, hs.length, hs.reasoning, hs.message, ?_,
    nodup_putToolCall hs.keys, ?_, ?_⟩
  · intro ix u hu
    by_cases hi : ix = tc.index
    · subst hi
      rw [lookup_putToolCall_self, Option.some.injEq] at hu
      subst hu
      exact ⟨hst.with _ _, rfl, hit⟩
    · rw [lookup_putToolCall_of_ne hi] at hu
      exact hs.tools ix u hu
  · refine List.Perm.trans ?_ hs.indexes
    exact (indexes_putToolCall hs.keys ht rfl).append_left _
  · intro other ho
    refine lookup_putToolCall_ne_none ?_
    rcases mem_append.mp ho with ho | ho
    · exact .inl (hs.fed other ho)
    · exact .inr (by rw [mem_singleton.mp ho])

lemma Keeps.openTool (he : s.localToolCalls.lookup tc.index = none) (hst : Settled (some ns) t)
    (hn : t.outputIndex = s.currentOutputIndex) (arguments : String) :
    Keeps ns id (fed ++ [tc]) { s with
        currentOutputIndex := s.currentOutputIndex + 1
        localToolCalls := putToolCall tc.index { t with added := true, arguments := arguments }
          s.localToolCalls }
      { ledger with items := ledger.items ++ [toolItem t "in_progress" ""] } := by
  refine ⟨hs.mapper, hs.responseID, hs.running, hs.closed, ?_, ?_, ?_, ?_,
    nodup_putToolCall hs.keys, ?_, ?_⟩
  · rw [length_append, hs.length]
    rfl
  · exact fun i hi => getElem?_concat_of_some (hs.reasoning i hi) _
  · exact fun i hi => getElem?_concat_of_some (hs.message i hi) _
  · intro ix u hu
    by_cases hm : ix = tc.index
    · subst hm
      rw [lookup_putToolCall_self, Option.some.injEq] at hu
      subst hu
      refine ⟨hst.with _ _, rfl, ?_⟩
      rw [hn]
      exact getElem?_next hs _
    · rw [lookup_putToolCall_of_ne hm] at hu
      obtain ⟨hus, ha, ht⟩ := hs.tools ix u hu
      exact ⟨hus, ha, getElem?_concat_of_some ht _⟩
  · have hin := hs.indexes
    unfold ChatToResponsesStream.indexes at hin ⊢
    dsimp only [putToolCall]
    rw [filter_of_lookup_eq_none he, map_cons, hn]
    exact perm_range_succ hin
  · intro other ho
    refine lookup_putToolCall_ne_none ?_
    rcases mem_append.mp ho with ho | ho
    · exact .inl (hs.fed other ho)
    · exact .inr (by rw [mem_singleton.mp ho])

lemma toolCall_follows_known (ht : s.localToolCalls.lookup tc.index = some t) :
    Follows ns id (fed ++ [tc]) ledger (toolCall tc s) := by
  obtain ⟨hst, ha, hi⟩ := hs.tools tc.index t ht
  rw [toolCall_known hs.mapper ht hst ha]
  exact argumentsEvents_follows (hs.known ht _) hi tc.arguments

end Keeping

lemma toolCall_follows_new (hl : ns.Plain) (hs : Keeps ns id fed s ledger)
    (hn : s.localToolCalls.lookup tc.index = none) (ha : (ns.restore tc.name).2 ≠ "") :
    Follows ns id (fed ++ [tc]) ledger (toolCall tc s) := by
  have hf := new_newToolCall tc s
  obtain ⟨hp, -, hi, -⟩ := hf.identify_fields ns
  have ht := hf.settled hl ha
  have hm : (identify (some ns) tc (newToolCall tc s)).name ≠ "" := by
    rw [← congrArg Prod.snd hp] at ha
    exact ha
  rw [toolCall_new hs.mapper hn rfl hm]
  generalize identify (some ns) tc (newToolCall tc s) = t at ht hi
  have ho := hs.openTool hn ht hi (t.arguments ++ tc.arguments)
  have hit : Follows ns id (fed ++ [tc]) ledger
      ([⟨.outputItemAdded s.respID t.outputIndex (toolItem t "in_progress" ""), 0⟩], _) :=
    .opens (by rw [hi, hs.length]; rfl) ho
  exact hit.chain (f := fun s' => (argumentsEvents s.respID t tc.arguments, s'))
    fun ledger' hs' => argumentsEvents_follows hs' (hs'.tools tc.index _
      lookup_putToolCall_self).2.2 tc.arguments

lemma toolCalls_follow (hp : ns.Plain)
    (hm : ∀ name, name ≠ "" → (ns.restore name).2 ≠ "") (hc : FirstNamed cs)
    (ds : List ToolCallDelta) (hf : cs = fed ++ ds ++ rest)
    (hs : Keeps ns id fed s ledger) :
    Follows ns id (fed ++ ds) ledger (chainAll toolCall ds s) := by
  induction ds generalizing fed s ledger with
  | nil =>
    rw [append_nil]
    exact .nothing hs
  | cons tc ds ih =>
    have ht : Follows ns id (fed ++ [tc]) ledger (toolCall tc s) := by
      cases hl : s.localToolCalls.lookup tc.index with
      | some t => exact toolCall_follows_known hs hl
      | none =>
        have hi : ∀ other ∈ fed, other.index ≠ tc.index := by
          intro other ho hsm
          have hk := hs.fed other ho
          rw [hsm] at hk
          exact hk hl
        have hn := hc fed tc (ds ++ rest) (by simp [hf]) hi
        exact toolCall_follows_new hp hs hl (hm tc.name hn)
    have hr := ht.chain (f := chainAll toolCall ds) fun ledger' hs' =>
      ih (by simp [hf]) hs'
    rwa [append_assoc] at hr

/-! ## Frames -/

lemma feedDelta_follows (hp : ns.Plain)
    (hn : ∀ name, name ≠ "" → (ns.restore name).2 ≠ "") (hc : FirstNamed cs)
    (delta : ChatDelta) (hf : cs = fed ++ delta.toolCalls ++ rest)
    (hs : Keeps ns id fed s ledger) :
    Follows ns id (fed ++ delta.toolCalls) ledger (feedDelta delta s) := by
  have hr := feedReasoning_follows (chatResponsesReasoning delta) hs
  have ht := hr.chain (f := feedText delta.content) fun _ hs' =>
    feedText_follows delta.content hs'
  exact ht.chain fun _ hs' => toolCalls_follow hp hn hc delta.toolCalls hf hs'

/-- The frame that announces the end. -/
def IsDone (data : Bytes) : Prop := trimSpace data = ascii "[DONE]"

instance (data : Bytes) : Decidable (IsDone data) := inferInstanceAs (Decidable (_ = _))

def chunkCalls (chunk : ChatChunk) : List ToolCallDelta :=
  match chunk.choices with
  | [] => []
  | choice :: _ => choice.delta.toolCalls

def frameCalls (d : Decoders) (data : Bytes) : List ToolCallDelta :=
  if IsDone data then [] else ((d.responsesChunk data).map chunkCalls).getD []

abbrev Frame := ℤ × Bytes

/-- `FeedJSON` as a step. -/
def feed (d : Decoders) (frame : Frame) (s : ChatToResponsesStream) : Step :=
  let r := feedJSON d frame.1 frame.2 s
  (r.1, r.2.2)

/-- What the first chunk finds. -/
structure Fresh (names : ToolNames) (s : ChatToResponsesStream) : Prop where
  mapper : s.mapper = some names
  responseID : s.lastResponseID = ""
  waiting : s.started = false ∧ s.finished = false
  reasoning : s.reasoningOutputIndex = none
  text : s.textOutputIndex = none
  next : s.currentOutputIndex = 0
  calls : s.localToolCalls = []

lemma Fresh.keeps (hs : Fresh ns s) (id : String) :
    Keeps ns id [] { s with lastResponseID := id, started := true } {} := by
  refine ⟨hs.mapper, rfl, ⟨rfl, hs.waiting.2⟩, rfl, hs.next.symm, ?_, ?_, ?_, ?_, ?_, by simp⟩
  · simp [hs.reasoning]
  · simp [hs.text]
  · simp [hs.calls]
  · simp [hs.calls]
  · simp [ChatToResponsesStream.indexes, hs.reasoning, hs.text, hs.calls, hs.next]

/-- What one frame does: a chunk with the id of the stream, or the end. -/
def Fits (d : Decoders) (id : String) (data : Bytes) : Prop :=
  IsDone data ∨ ∃ chunk, d.responsesChunk data = some chunk ∧ chunk.id = id

/-- The delta of a chunk, once the machine is running. -/
def feedChoices (chunk : ChatChunk) (s : ChatToResponsesStream) : Step :=
  match chunk.choices with
  | [] => ([], s)
  | choice :: _ => feedDelta choice.delta s

lemma feedChoices_follows (hp : ns.Plain)
    (hn : ∀ name, name ≠ "" → (ns.restore name).2 ≠ "") (hl : FirstNamed cs)
    (chunk : ChatChunk) (hf : cs = fed ++ chunkCalls chunk ++ rest)
    (hs : Keeps ns id fed s ledger) :
    Follows ns id (fed ++ chunkCalls chunk) ledger (feedChoices chunk s) := by
  unfold feedChoices
  unfold chunkCalls at hf ⊢
  cases hc : chunk.choices with
  | nil =>
    rw [append_nil]
    exact .nothing hs
  | cons ch os =>
    rw [hc] at hf
    exact feedDelta_follows hp hn hl ch.delta hf hs

/-- The state in which the choices of a chunk are read. -/
def noted (d : Decoders) (data : Bytes) (chunk : ChatChunk) (s : ChatToResponsesStream) :
    ChatToResponsesStream :=
  let s := noteFinish d data { s with usage := s.usage.update (chatStreamUsage d data) }
  { s with
    lastResponseID := if chunk.id = "" then s.lastResponseID else chunk.id
    lastModelName := if chunk.model = "" then s.lastModelName else chunk.model }

lemma feed_chunk {d : Decoders} (frame : Frame) (hs : s.finished = false)
    (hd : ¬IsDone frame.2) (hc : d.responsesChunk frame.2 = some chunk) :
    feed d frame s = chain (start frame.1 (noted d frame.2 chunk s)) (feedChoices chunk) := by
  unfold IsDone at hd
  unfold feed feedJSON
  rw [if_neg (by simp [hs]), if_neg hd]
  rw [hc]
  rfl

lemma feed_done {d : Decoders} (hs : s.finished = false) (hd : IsDone frame.2) :
    feed d frame s = ([], { s with sawDone := true }) := by
  unfold IsDone at hd
  unfold feed feedJSON
  rw [if_neg (by simp [hs]), if_pos hd]

lemma noteFinish_fields (data : Bytes) (s : ChatToResponsesStream) :
    noteFinish d data s = { s with finishReason := (noteFinish d data s).finishReason } := by
  unfold noteFinish
  cases d.finishReasons data <;> rfl

lemma noted_eq (data : Bytes) (chunk : ChatChunk) (s : ChatToResponsesStream) :
    ∃ usage finishReason lastModelName, noted d data chunk s = { s with
        usage := usage
        finishReason := finishReason
        lastResponseID := if chunk.id = "" then s.lastResponseID else chunk.id
        lastModelName := lastModelName } := by
  unfold noted
  rw [noteFinish_fields]
  exact ⟨_, _, _, rfl⟩

/-! ## Whole streams -/

/-- The events so far: the stream is opened and then only items are dealt with. -/
def Opened (names : ToolNames) (id : String) (fed : List ToolCallDelta) (r : Step) : Prop :=
  ∃ response middle ledger,
    r.1.map ResponsesStreamEvent.event = .created response :: .inProgress response :: middle ∧
    Trace (ItemStreams.Step OutputItem.Refers OutputItem.Same) {}
      (middle.filterMap ResponsesEvent.mark) ledger ∧
    (∀ e ∈ middle, e.mark ≠ none) ∧ Keeps names id fed r.2 ledger

lemma Opened.chain {f : ChatToResponsesStream → Step} (hr : Opened ns id fed r)
    (hf : ∀ ledger, Keeps ns id fed r.2 ledger → Follows ns id fed' ledger (f r.2)) :
    Opened ns id fed' (chain r f) := by
  obtain ⟨response, mid, ledger, hev, ht, hm, hk⟩ := hr
  obtain ⟨ledger', ht', hm', hk'⟩ := hf ledger hk
  refine ⟨response, mid ++ (f r.2).1.map event, ledger', ?_, ?_, ?_, hk'⟩
  · rw [TokenliveGateway.chain, map_append, hev]
    rfl
  · rw [filterMap_append, filterMap_map]
    exact ht.append ht'
  · intro e he
    rcases mem_append.mp he with he | he
    · exact hm e he
    · obtain ⟨event, hv, rfl⟩ := mem_map.mp he
      exact hm' event hv

lemma Fresh.opened (hs : Fresh ns s) {d : Decoders} (hi : chunk.id = id) :
    Opened ns id [] (start frame.1 (noted d frame.2 chunk s)) := by
  obtain ⟨usage, finishReason, lastModel, hn⟩ := noted_eq d frame.2 chunk s
  have hr : (if chunk.id = "" then s.lastResponseID else chunk.id) = id := by
    split_ifs with he
    · rw [hs.responseID, ← hi, he]
    · exact hi
  rw [hn, hr, start, if_neg (by simp [hs.waiting.1])]
  exact ⟨_, [], {}, rfl, .nil, by simp, { hs.keeps id with }⟩

lemma Keeps.start (hs : Keeps ns id fed s ledger) {d : Decoders} (hi : chunk.id = id) :
    Follows ns id fed ledger (start frame.1 (noted d frame.2 chunk s)) := by
  obtain ⟨usage, finishReason, lastModel, hn⟩ := noted_eq d frame.2 chunk s
  have hr : (if chunk.id = "" then s.lastResponseID else chunk.id) = s.lastResponseID := by
    split_ifs
    · rfl
    · rw [hi, hs.responseID]
  rw [hn, ChatToResponsesStream.start, if_pos hs.running.1, hr]
  exact .nothing { hs with }

/-- What some frames have done: nothing yet, if all of them announce the end, or they have
opened the stream. -/
def Progress (names : ToolNames) (id : String) (frames : List Frame) (fed : List ToolCallDelta)
    (r : Step) : Prop :=
  (r.1 = [] ∧ fed = [] ∧ Fresh names r.2 ∧ ∀ frame ∈ frames, IsDone frame.2) ∨
    Opened names id fed r

lemma Progress.step (hpl : ns.Plain)
    (hnm : ∀ name, name ≠ "" → (ns.restore name).2 ≠ "") (hl : FirstNamed cs)
    {d : Decoders} {fs : List Frame} (hfra : Fits d id frame.2)
    (he : cs = fed ++ frameCalls d frame.2 ++ rest) (hr : Progress ns id fs fed r) :
    Progress ns id (fs ++ [frame]) (fed ++ frameCalls d frame.2)
      (chain r (feed d frame)) := by
  by_cases hd : IsDone frame.2
  · rw [frameCalls, if_pos hd, append_nil]
    rcases hr with ⟨hv, hn, hf, hm⟩ | hp
    · refine .inl ⟨?_, hn, ?_, ?_⟩
      · rw [chain, feed_done hf.waiting.2 hd, hv]
        rfl
      · rw [chain, feed_done hf.waiting.2 hd]
        exact { hf with }
      · intro other ho
        rcases mem_append.mp ho with ho | ho
        · exact hm other ho
        · rw [mem_singleton.mp ho]
          exact hd
    · refine .inr (hp.chain fun ledger hs => ?_)
      rw [feed_done hs.running.2 hd]
      exact .nothing { hs with }
  · obtain ⟨chunk, hc, hi⟩ := hfra.resolve_left hd
    have ha : frameCalls d frame.2 = chunkCalls chunk := by
      rw [frameCalls, if_neg hd, hc]
      rfl
    rw [ha] at he ⊢
    right
    rcases hr with ⟨hv, hn, hf, -⟩ | hp
    · have hfi : Opened ns id [] (start frame.1 (noted d frame.2 chunk r.2)) := hf.opened hi
      subst hn
      have hh := hfi.chain fun ledger hs =>
        feedChoices_follows hpl hnm hl chunk he hs
      rw [chain, hv, nil_append, feed_chunk frame hf.waiting.2 hd hc]
      exact hh
    · refine hp.chain fun ledger hs => ?_
      rw [feed_chunk frame hs.running.2 hd hc]
      exact (hs.start hi).chain fun ledger' hs' =>
        feedChoices_follows hpl hnm hl chunk he hs'

lemma Progress.frames (hl : ns.Plain)
    (hm : ∀ name, name ≠ "" → (ns.restore name).2 ≠ "") (hs : Fresh ns s) {d : Decoders}
    {fs : List Frame} (hr : ∀ frame ∈ fs, Fits d id frame.2)
    (hc : FirstNamed (fs.flatMap fun frame => frameCalls d frame.2)) :
    Progress ns id fs (fs.flatMap fun frame => frameCalls d frame.2)
      (chainAll (feed d) fs s) := by
  -- the deltas of all frames stay fixed while the frames are read one after another
  have hn : ∀ pre rest, fs = pre ++ rest →
      Progress ns id pre (pre.flatMap fun frame => frameCalls d frame.2)
        (chainAll (feed d) pre s) := by
    intro pre
    induction pre using reverseRecOn with
    | nil => exact fun _ _ => .inl ⟨rfl, rfl, hs, by simp⟩
    | append_singleton pre frame ih =>
      intro rest hp
      have hb := ih (frame :: rest) (by simp [hp])
      have hf : (fs.flatMap fun frame => frameCalls d frame.2) =
          (pre.flatMap fun frame => frameCalls d frame.2) ++ frameCalls d frame.2 ++
            rest.flatMap fun frame => frameCalls d frame.2 := by
        simp [hp]
      have hft := hr frame (by simp [hp])
      have ht := hb.step hl hm hc hft hf
      rw [chainAll_append, chainAll_singleton, flatMap_append, flatMap_singleton]
      exact ht
  exact hn fs [] (by simp)

/-! ## The end -/

/-- An item that is closed: its index, the last events about it and its final form. -/
abbrev Closing := ℕ × List ResponsesEvent × OutputItem

def closingEvents (respID : String) (x : Closing) : List ResponsesEvent :=
  x.2.1 ++ [.outputItemDone respID x.1 x.2.2]

def reasoningClosing (s : ChatToResponsesStream) (i : ℕ) : Closing :=
  (i, [.reasoningTextDone s.respID s.reasoningID i s.fullReasoning,
      .reasoningPartDone s.respID s.reasoningID i s.fullReasoning],
    .reasoning s.reasoningID [s.fullReasoning] "" "completed")

def messageClosing (s : ChatToResponsesStream) (i : ℕ) : Closing :=
  (i, [.outputTextDone s.respID s.msgID i s.fullText,
      .contentPartDone s.respID s.msgID i s.fullText],
    .message s.msgID "completed" [s.fullText])

def toolClosing (d : Decoders) (respID : String) (t : ChatResponsesToolCall) : Closing :=
  (t.outputIndex,
    if t.isCustom then []
    else [.argumentsDone respID t.id (some t.callID) t.outputIndex t.arguments],
    (closeToolCall d respID t).2)

/-- What `Finish` closes, in this order. -/
def closings (d : Decoders) (s : ChatToResponsesStream) : List Closing :=
  s.reasoningOutputIndex.toList.map (reasoningClosing s) ++
    s.textOutputIndex.toList.map (messageClosing s) ++
      (sortedToolCalls s).map (toolClosing d s.respID)

lemma closeToolCall_events (respID : String) (t : ChatResponsesToolCall) :
    (closeToolCall d respID t).1.map event = closingEvents respID (toolClosing d respID t) := by
  unfold closeToolCall closingEvents toolClosing closeToolCall
  split_ifs <;> rfl

/-- The closing events are those of the items, one after another. -/
lemma closing_events (s : ChatToResponsesStream) : (closing d s).1.map event =
      (closings d s).flatMap (closingEvents s.respID) := by
  have hr : s.closeReasoning.1.map event =
      (s.reasoningOutputIndex.toList.map (reasoningClosing s)).flatMap
        (closingEvents s.respID) := by
    unfold closeReasoning
    cases s.reasoningOutputIndex <;> rfl
  have hm : s.closeMessage.1.map event =
      (s.textOutputIndex.toList.map (messageClosing s)).flatMap (closingEvents s.respID) := by
    unfold closeMessage
    cases s.textOutputIndex <;> rfl
  have ht : (((sortedToolCalls s).map (closeToolCall d s.respID)).flatMap (·.1)).map event =
      ((sortedToolCalls s).map (toolClosing d s.respID)).flatMap (closingEvents s.respID) := by
    rw [map_flatMap, flatMap_map, flatMap_map]
    exact flatMap_congr fun t _ => closeToolCall_events d s.respID t
  unfold closing closings
  rw [map_append, map_append, hr, hm, ht, flatMap_append, flatMap_append]

lemma closings_uses {d : Decoders} {x : Closing} (hx : x ∈ closings d s) :
    ∀ e ∈ x.2.1, e.mark = some (.uses x.1 e) := by
  simp only [closings, mem_append, mem_map] at hx
  rcases hx with (⟨i, -, rfl⟩ | ⟨i, -, rfl⟩) | ⟨t, -, rfl⟩
  · simp [reasoningClosing, mark]
  · simp [messageClosing, mark]
  · dsimp only [toolClosing]
    split_ifs <;> simp [mark]

lemma closingEvents_mark {respID : String} {x : Closing}
    (hx : ∀ e ∈ x.2.1, e.mark = some (.uses x.1 e)) :
    (closingEvents respID x).filterMap mark = x.2.1.map (.uses x.1) ++ [.closes x.1 x.2.2] ∧
      ∀ e ∈ closingEvents respID x, e.mark ≠ none := by
  unfold closingEvents
  constructor
  · rw [filterMap_append, filterMap_congr hx, ← filterMap_eq_map]
    rfl
  · intro e he
    rcases mem_append.mp he with he | he
    · rw [hx e he]
      exact Option.some_ne_none _
    · obtain rfl := mem_singleton.mp he
      exact Option.some_ne_none _

lemma toolItem_same (respID : String) (t : ChatResponsesToolCall) :
    (toolItem t "in_progress" "").Same (closeToolCall d respID t).2 := by
  unfold closeToolCall toolItem
  split_ifs <;> exact ⟨rfl, rfl, rfl, rfl⟩

lemma mem_of_mem_sortedToolCalls (ht : t ∈ sortedToolCalls s) :
    ∃ ix, (ix, t) ∈ s.localToolCalls := by
  obtain ⟨⟨ix, t'⟩, hm, rfl⟩ := mem_map.mp ht
  exact ⟨ix, (mem_insertionSort _).mp hm⟩

section Closing
variable (hs : Keeps ns id fed s ledger)
include hs

lemma Keeps.announced (d : Decoders) {x : Closing} (hx : x ∈ closings d s) :
    ∃ item, ledger.items[x.1]? = some item ∧ (∀ e ∈ x.2.1, item.Refers e) ∧ item.Same x.2.2 := by
  simp only [closings, mem_append, mem_map, Option.mem_toList] at hx
  rcases hx with (⟨i, hi, rfl⟩ | ⟨i, hi, rfl⟩) | ⟨t, ht, rfl⟩
  · exact ⟨_, hs.reasoning i hi, by simp [reasoningClosing, Refers], rfl⟩
  · exact ⟨_, hs.message i hi, by simp [messageClosing, Refers], rfl⟩
  · obtain ⟨ix, hm⟩ := mem_of_mem_sortedToolCalls ht
    obtain ⟨-, -, hit⟩ := hs.tools ix t (lookup_eq_some_of_mem hs.keys hm)
    refine ⟨_, hit, ?_, toolItem_same d s.respID t⟩
    unfold toolClosing toolItem
    split_ifs
    · simp
    · simp [Refers]

/-- Every index in use is closed, each once. -/
lemma Keeps.closings_perm (d : Decoders) :
    ((closings d s).map Prod.fst).Perm (range ledger.items.length) := by
  have ht : ((sortedToolCalls s).map ChatResponsesToolCall.outputIndex).Perm
      (s.localToolCalls.map fun entry => entry.2.outputIndex) := by
    have hr := (s.localToolCalls.perm_insertionSort fun a b => a.1 ≤ b.1).map
      fun entry => entry.2.outputIndex
    rw [sortedToolCalls, map_map]
    exact hr
  have hf : (closings d s).map Prod.fst = s.reasoningOutputIndex.toList ++
      s.textOutputIndex.toList ++ (sortedToolCalls s).map ChatResponsesToolCall.outputIndex := by
    simp [closings, reasoningClosing, messageClosing, toolClosing, Function.comp_def]
  rw [hf, hs.length]
  exact (ht.append_left _).trans hs.indexes

/-- `Finish` closes all items. -/
lemma Keeps.closing_trace (d : Decoders) :
    ∃ ledger', Trace (ItemStreams.Step Refers Same) ledger
        (((closing d s).1.map event).filterMap mark) ledger' ∧
      (∀ e ∈ (closing d s).1.map event, e.mark ≠ none) ∧
      ledger'.items = ledger.items ∧ ∀ i < ledger'.items.length, i ∈ ledger'.closed := by
  have hp := hs.closings_perm d
  have ht := Run.closeEach (closings d s) (hp.nodup_iff.mpr nodup_range)
    fun x hx => ⟨by rw [hs.closed]; exact not_mem_nil, hs.announced d hx⟩
  have hm : ((closings d s).flatMap (closingEvents s.respID)).filterMap mark =
      (closings d s).flatMap fun x => x.2.1.map (.uses x.1) ++ [.closes x.1 x.2.2] := by
    rw [filterMap_flatMap]
    exact flatMap_congr fun x hx => (closingEvents_mark (closings_uses hx)).1
  refine ⟨{ ledger with closed := ledger.closed ++ (closings d s).map Prod.fst }, ?_, ?_, rfl, ?_⟩
  · rw [closing_events, hm]
    exact ht
  · rw [closing_events]
    intro e he
    obtain ⟨x, hx, hxe⟩ := mem_flatMap.mp he
    exact (closingEvents_mark (closings_uses hx)).2 e hxe
  · intro i hi
    exact mem_append_right _ (hp.mem_iff.mpr (mem_range.mpr hi))

end Closing

lemma finish_events (hs : s.started = true ∧ s.finished = false) (d : Decoders) (now : ℤ)
    (latestUsage : TokenUsage) :
    ∃ response, (finish d now latestUsage s).1.map event =
      (closing d s).1.map event ++ [.done response, .completed response] := by
  unfold finish
  rw [if_neg (by simp [hs.2])]
  rw [if_neg (by simp [hs.1]), map_append]
  exact ⟨_, rfl⟩

/-- A stream that is opened, deals with its items and closes all of them. -/
def WellFormed (events : List ResponsesEvent) : Prop :=
  ∃ opened middle closed n,
    events =
        .created opened :: .inProgress opened :: (middle ++ [.done closed, .completed closed]) ∧
      (∀ e ∈ middle, e.mark ≠ none) ∧
      Complete OutputItem.Refers OutputItem.Same n (middle.filterMap ResponsesEvent.mark)

/-- What the client receives for the frames of an upstream that has ended. -/
def answer (d : Decoders) (frames : List Frame) (now : ℤ) (latestUsage : TokenUsage)
    (s : ChatToResponsesStream) : List ResponsesEvent :=
  let r := chainAll (feed d) frames s
  (r.1 ++ (finish d now latestUsage r.2).1).map ResponsesStreamEvent.event

lemma Opened.wellFormed (hr : Opened ns id fed r) (d : Decoders) (now : ℤ)
    (latestUsage : TokenUsage) :
    WellFormed ((r.1 ++ (finish d now latestUsage r.2).1).map event) := by
  obtain ⟨response, mid, ledger, hv, ht, hmr, hk⟩ := hr
  obtain ⟨ledger', hc, hm, -, ha⟩ := hk.closing_trace d
  obtain ⟨closed, hf⟩ := finish_events hk.running d now latestUsage
  have hu := Trace.append ht hc
  rw [← filterMap_append] at hu
  refine ⟨response, _, closed, _, ?_, ?_, Run.complete hu ha⟩
  · rw [map_append, hv, hf]
    simp
  · intro e he
    rcases mem_append.mp he with he | he
    · exact hmr e he
    · exact hm e he

lemma WellFormed.announced {evs : List ResponsesEvent} (h : WellFormed evs)
    {respID : String} {item : OutputItem} (hd : .outputItemDone respID i item ∈ evs) :
    ∃ e ∈ evs, e.type = "response.output_item.added" := by
  obtain ⟨opened, middle, closed, n, rfl, -, hc⟩ := h
  have hm : .outputItemDone respID i item ∈ middle := by simpa using hd
  have hma : .closes i item ∈ middle.filterMap mark := mem_filterMap.mpr ⟨_, hm, rfl⟩
  obtain ⟨pre, rest, hp⟩ := append_of_mem hma
  obtain ⟨⟨a, ha, -⟩, -⟩ := hc.closed pre i item rest hp
  have ho : .opens i a ∈ middle.filterMap mark := by
    rw [hp]
    exact mem_append_left _ ha
  obtain ⟨e, he, hop⟩ := mem_filterMap.mp ho
  refine ⟨e, by simp [he], ?_⟩
  cases e <;> simp_all [mark, type]

/-! ## Calls without a name -/

lemma closing_type {d : Decoders} {e : ResponsesEvent} (he : e ∈ (closing d s).1.map event) :
    e.type ≠ "response.output_item.added" := by
  rw [closing_events] at he
  obtain ⟨x, hx, hxe⟩ := mem_flatMap.mp he
  rcases mem_append.mp hxe with hxe | hxe
  · have hm := closings_uses hx e hxe
    cases e <;> simp_all [mark, type]
  · rw [mem_singleton.mp hxe]
    simp [type]

lemma closing_done {d : Decoders} {ix : ℤ} (ht : (ix, t) ∈ s.localToolCalls) :
    .outputItemDone s.respID t.outputIndex (closeToolCall d s.respID t).2 ∈
      (closing d s).1.map event := by
  have hr : t ∈ sortedToolCalls s := mem_map.mpr ⟨(ix, t), (mem_insertionSort _).mpr ht, rfl⟩
  rw [closing_events, mem_flatMap]
  refine ⟨toolClosing d s.respID t, ?_, ?_⟩
  · exact mem_append_right _ (mem_map_of_mem hr)
  · simp [closingEvents, toolClosing]

/-- A call that is restored to an empty name is not announced. -/
lemma toolCall_unnamed (hm : s.mapper = some ns) (tc : ToolCallDelta)
    (hn : s.localToolCalls.lookup tc.index = none) (ha : (ns.restore tc.name).2 = "") :
    (∀ e ∈ (toolCall tc s).1, e.event.type ≠ "response.output_item.added") ∧
      ∃ t, (tc.index, t) ∈ (toolCall tc s).2.localToolCalls := by
  have hp := ((new_newToolCall tc s).identify_fields ns).1
  have he : (identify (some ns) tc (newToolCall tc s)).name = "" := by
    rw [← congrArg Prod.snd hp] at ha
    exact ha
  have hl : localToolCall tc s =
      (newToolCall tc s, { s with currentOutputIndex := s.currentOutputIndex + 1 }) := by
    rw [localToolCall, hn]
    rfl
  unfold toolCall
  rw [hl]
  dsimp only
  rw [hm, if_neg fun h => h.1 he]
  refine ⟨?_, _, mem_cons_self⟩
  split_ifs <;> simp [type]

/-- Chunks that hold the first delta of one call. -/
def oneCall (name : String) : ChatChunk :=
  { id := "c", choices := [{ delta := { toolCalls := [{ name := name }] } }] }

def decodesTo (chunk : ChatChunk) : Decoders :=
  { silentDecoders with responsesChunk := fun _ => some chunk }

lemma feedChoices_oneCall (name : String) :
    feedChoices (oneCall name) = toolCall { name := name } := by
  funext s
  simp [feedChoices, oneCall, feedDelta, chatResponsesReasoning, feedReasoning, feedText, chainAll,
    chain]

lemma feed_oneCall (hs : Fresh ns s) (name : String) :
    ∃ response s', feed (decodesTo (oneCall name)) (0, []) s =
        chain ([⟨.created response, 0⟩, ⟨.inProgress response, 0⟩], s')
          (toolCall { name := name }) ∧
      (s'.started = true ∧ s'.finished = false) ∧ s'.mapper = some ns ∧
      s'.localToolCalls = [] := by
  obtain ⟨usage, finishReason, lastModel, hn⟩ :=
    noted_eq (decodesTo (oneCall name)) [] (oneCall name) s
  have hw : (noted (decodesTo (oneCall name)) [] (oneCall name) s).started = false := by
    exact hs.waiting.1
  have hf := feed_chunk (d := decodesTo (oneCall name)) (0, []) hs.waiting.2 (by decide) rfl
  rw [feedChoices_oneCall, start, if_neg (by simp [hw])] at hf
  refine ⟨_, _, hf, ⟨rfl, ?_⟩, ?_, ?_⟩ <;> rw [hn]
  · exact hs.waiting.2
  · exact hs.mapper
  · exact hs.calls

lemma toolCall_running (tc : ToolCallDelta) (s : ChatToResponsesStream) :
    (toolCall tc s).2.started = s.started ∧ (toolCall tc s).2.finished = s.finished := by
  unfold toolCall localToolCall
  cases s.localToolCalls.lookup tc.index <;> exact ⟨rfl, rfl⟩

lemma not_wellFormed_oneCall (hs : Fresh ns s) (name : String)
    (hna : (ns.restore name).2 = "") :
    ¬WellFormed (answer (decodesTo (oneCall name)) [(0, [])] 0 {} s) := by
  obtain ⟨response, s', hd, hrn, hm, hc⟩ := feed_oneCall hs name
  obtain ⟨hev, t, ht⟩ := toolCall_unnamed hm { name := name } (by rw [hc]; rfl) hna
  have haf : (toolCall { name := name } s').2.started = true ∧
      (toolCall { name := name } s').2.finished = false := by
    obtain ⟨hr, hf⟩ := toolCall_running { name := name } s'
    rw [hr, hf]
    exact hrn
  obtain ⟨closed, hn⟩ := finish_events haf (decodesTo (oneCall name)) 0 {}
  have ha : answer (decodesTo (oneCall name)) [(0, [])] 0 {} s =
      [.created response, .inProgress response] ++ (toolCall { name := name } s').1.map event ++
        (closing (decodesTo (oneCall name)) (toolCall { name := name } s').2).1.map event ++
        [.done closed, .completed closed] := by
    rw [answer, chainAll_singleton, hd]
    dsimp only [chain]
    rw [map_append, hn]
    simp
  -- the call is closed, but no item is announced
  intro hw
  obtain ⟨e, he, hy⟩ := hw.announced (by
    rw [ha]
    exact mem_append_left _ (mem_append_right _ (closing_done ht)))
  rw [ha] at he
  simp only [mem_append] at he
  rcases he with ((he | he) | he) | he
  · rcases mem_pair.mp he with rfl | rfl <;> simp [type] at hy
  · obtain ⟨event, hv, rfl⟩ := mem_map.mp he
    exact hev event hv hy
  · exact closing_type he hy
  · rcases mem_pair.mp he with rfl | rfl <;> simp [type] at hy

/-! ## Requests -/

def forRequest (marshal : Json → String) (payload : Fields) (model : String) (usage : TokenUsage) :
    ChatToResponsesStream :=
  { model := model
    mapper := some (responsesRequestToChat marshal payload).2.names
    usage := usage }

lemma fresh_forRequest (marshal : Json → String) (pl : Fields) (model : String)
    (usage : TokenUsage) :
    Fresh (responsesRequestToChat marshal pl).2.names
      (forRequest marshal pl model usage) :=
  ⟨rfl, rfl, ⟨rfl, rfl⟩, rfl, rfl, rfl, rfl⟩

/-- A Chat stream that is not empty, whose frames decode and have one id, and in which every
call has its name in its first delta, becomes a well-formed Responses stream, whatever it
holds, exactly if the request has registered no empty name in a namespace. -/
theorem chat_streams_wellFormed_iff (marshal : Json → String) (payload : Fields) :
    (∀ d model usage latestUsage now frames id, (∀ frame ∈ frames, Fits d id frame.2) →
        (∃ frame ∈ frames, ¬IsDone frame.2) →
        FirstNamed (frames.flatMap fun frame => frameCalls d frame.2) →
        WellFormed (answer d frames now latestUsage (forRequest marshal payload model usage))) ↔
      ∀ pair, ToolNameMapper.First (registeredPairs marshal payload) pair → pair.2 ≠ "" := by
  have hr := (request_registered marshal payload).1
  have hp := hr.plain fun pair => space_of_mem_registeredPairs
  constructor
  · intro h pair hi hem
    obtain ⟨name, hv, hre⟩ := hr.restore_first hi
    have hn : name ≠ "" := hr.named name pair hv (space_of_mem_registeredPairs hi.mem)
    refine not_wellFormed_oneCall (fresh_forRequest marshal payload "" {}) name ?_
      (h (decodesTo (oneCall name)) "" {} {} 0 [(0, [])] "c" ?_ ?_ ?_)
    · exact (congrArg Prod.snd hre).trans hem
    · exact fun frame _ => .inr ⟨oneCall name, rfl, rfl⟩
    · exact ⟨(0, []), by simp, by decide⟩
    · intro pre tc rest hc _
      have he : tc ∈ [({ name := name } : ToolCallDelta)] := by
        have ha : [({ name := name } : ToolCallDelta)] = pre ++ tc :: rest := hc
        rw [ha]
        simp
      rw [mem_singleton.mp he]
      exact hn
  · intro hnm d model usage latestUsage now frames id hm hso hc
    have hpr := Progress.frames hp (fun name => hr.restore_named hnm)
      (fresh_forRequest marshal payload model usage) hm hc
    rcases hpr with ⟨-, -, -, hd⟩ | ho
    · obtain ⟨frame, hf, hnot⟩ := hso
      exact absurd (hd frame hf) hnot
    · exact ho.wellFormed d now latestUsage

/-- A history in which a tool of a namespace was called without a name. -/
def unnamedCall : Fields :=
  [("input", .array
    [.object [("type", .str "function_call"), ("call_id", .str "call_1"), ("namespace", .str "ns"),
        ("name", .str "")],
      .object [("type", .str "function_call_output"), ("call_id", .str "call_1"),
        ("output", .str "done")]])]

/-- The name `ns_` is restored to an empty one: when the upstream calls it, the client gets
the arguments and the end of an item that it was never told of. -/
theorem unnamedCall_not_announced : (answer (decodesTo (oneCall "ns_")) [(0, [])] 0 {}
        (forRequest (fun _ => "") unnamedCall "m" {})).map ResponsesEvent.type =
      ["response.created", "response.in_progress", "response.function_call.arguments.delta",
        "response.function_call.arguments.done", "response.output_item.done", "response.done",
        "response.completed"] ∧
      ¬WellFormed (answer (decodesTo (oneCall "ns_")) [(0, [])] 0 {}
        (forRequest (fun _ => "") unnamedCall "m" {})) :=
  ⟨by decide +kernel,
    not_wellFormed_oneCall (fresh_forRequest (fun _ => "") unnamedCall "m" {}) "ns_"
      (by decide +kernel)⟩

end

end ChatToResponsesStream
end TokenliveGateway
