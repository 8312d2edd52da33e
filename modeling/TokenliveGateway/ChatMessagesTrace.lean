import TokenliveGateway.ChatMessagesStream
import TokenliveGateway.MessageBlocks

/-!
# Chat streams become well-formed Messages streams

Everything that `ChatToMessagesStream` emits before it stops the blocks are moves of a
table of blocks. From this a translated stream is well formed, whatever the upstream
sends: the blocks are opened in order and each is stopped once, and what is added to them
is what the frames say.
-/
namespace TokenliveGateway
open MessagesStreamEvent Function
open EventStreams GoStrings ItemStreams LabelledRuns List MessagesEvent BlockTable

/-! ## The translator -/

namespace ChatToMessagesStream

/-- The blocks of the machine. -/
def table (s : ChatToMessagesStream) : BlockTable where
  started := s.started
  next := s.nextBlockIndex
  block
    | .thinking => s.thinkingBlockIndex
    | .text => s.textBlockIndex
    | .tool index => s.oaiToAnthropicIndex.lookup index

structure Active (s : ChatToMessagesStream) : Prop where
  blocks : s.activeBlocks.Perm (List.range s.nextBlockIndex)
  tools : ∀ index i, s.oaiToAnthropicIndex.lookup index = some i → i < s.nextBlockIndex

/-- An active machine whose message is started. -/
structure Ready (s : ChatToMessagesStream) : Prop extends Active s where
  started : s.started = true

lemma Active.mem_iff {s : ChatToMessagesStream} (h : Active s) {i : ℕ} :
    i ∈ s.activeBlocks ↔ i < s.nextBlockIndex := by
  rw [h.blocks.mem_iff, mem_range]

lemma Active.insert {s : ChatToMessagesStream} (h : Active s) :
    (s.activeBlocks.insert s.nextBlockIndex).Perm (range (s.nextBlockIndex + 1)) := by
  have hn : s.nextBlockIndex ∉ s.activeBlocks := by
    rw [h.mem_iff]
    omega
  rw [insert_of_not_mem hn, range_succ]
  exact (h.blocks.cons _).trans (perm_append_singleton _ _).symm

/-- What only `FeedJSON` and `Finish` themselves change. -/
def signals (s : ChatToMessagesStream) : Bool × String × Bool :=
  (s.finished, s.finishReason, s.sawDone)

/-- The events of a step are moves of the table that add `pieces`. -/
def Moves (pieces : List (BlockSource × BlockDelta)) (s : ChatToMessagesStream) (r : Step) : Prop :=
  ∃ moves, Trace BlockTable.Step s.table moves r.2.table ∧
    r.1.map MessagesStreamEvent.event = moves.map BlockMove.event ∧
    moves.filterMap BlockMove.piece = pieces

/-- A step that moves the table and leaves a machine with `Q` and with the same signals. -/
structure Follows (Q : ChatToMessagesStream → Prop) (pieces : List (BlockSource × BlockDelta))
    (s : ChatToMessagesStream) (r : Step) : Prop where
  left : Q r.2
  signals : r.2.signals = s.signals
  moves : Moves pieces s r

section
variable {Q Q' : ChatToMessagesStream → Prop} {pieces pieces' : List (BlockSource × BlockDelta)}
  {s : ChatToMessagesStream} {r : Step} {f : ChatToMessagesStream → Step}

lemma Moves.chain (hr : Moves pieces s r) (hf : Moves pieces' r.2 (f r.2)) :
    Moves (pieces ++ pieces') s (chain r f) := by
  obtain ⟨moves, ht, he, hp⟩ := hr
  obtain ⟨moves', ht', he', hp'⟩ := hf
  refine ⟨moves ++ moves', ht.append ht', ?_, ?_⟩
  · simp [TokenliveGateway.chain, he, he']
  · simp [hp, hp']

lemma Follows.nothing (hs : Q s) : Follows Q [] s ([], s) := ⟨hs, rfl, [], .nil, rfl, rfl⟩

lemma Follows.chain (hr : Follows Q pieces s r) (hf : ∀ s, Q s → Follows Q' pieces' s (f s)) :
    Follows Q' (pieces ++ pieces') s (chain r f) := by
  obtain ⟨hm, hs, hv⟩ := hr
  obtain ⟨he, hs', hv'⟩ := hf r.2 hm
  exact ⟨he, hs'.trans hs, hv.chain hv'⟩

lemma Follows.chainAll {α : Type*} {f : α → ChatToMessagesStream → Step}
    {g : α → List (BlockSource × BlockDelta)} (hf : ∀ a s, Q s → Follows Q (g a) s (f a s))
    (xs : List α) : ∀ s, Q s → Follows Q (xs.flatMap g) s (chainAll f xs s) := by
  induction xs with
  | nil => exact fun s hs => .nothing hs
  | cons a rest ih =>
    intro s hs
    exact (hf a s hs).chain ih

lemma Follows.mono (h : Follows Q pieces s r) (hQ : ∀ s, Q s → Q' s) :
    Follows Q' pieces s r := { h with left := hQ _ h.left }

end

variable {s : ChatToMessagesStream}

lemma startMessage_follows (hs : Active s) : Follows Ready [] s (startMessage s) := by
  unfold startMessage
  split_ifs with ht
  · exact .nothing ⟨hs, ht⟩
  · exact ⟨⟨⟨hs.blocks, hs.tools⟩, rfl⟩, rfl, [.start _ _ _ _],
      .single (.start (by simpa [table] using ht) _ _ _ _), rfl, rfl⟩

lemma emitThinkingDelta_follows (hs : Ready s) {idx : ℕ}
    (hi : s.thinkingBlockIndex = some idx) (text : String) :
    Follows Ready [(.thinking, .thinking text)] s (emitThinkingDelta text idx s) :=
  ⟨⟨⟨hs.blocks, hs.tools⟩, hs.started⟩, rfl, [.adds .thinking idx (.thinking text)],
    .single (.adds hs.started hi trivial), rfl, rfl⟩

lemma emitTextDelta_follows (hs : Ready s) {idx : ℕ}
    (hi : s.textBlockIndex = some idx) (text : String) :
    Follows Ready [(.text, .text text)] s (emitTextDelta text idx s) :=
  ⟨⟨⟨hs.blocks, hs.tools⟩, hs.started⟩, rfl, [.adds .text idx (.text text)],
    .single (.adds hs.started hi trivial), rfl, rfl⟩

/-- A block is opened for a source that has none. -/
lemma follows_opening (s' : ChatToMessagesStream)
    (src : BlockSource) (block : ContentBlock) (hs : Ready s) (hn : s.table.block src = none)
    (hl : src.Starts block) (ht : s'.started = s.started)
    (hx : s'.nextBlockIndex = s.nextBlockIndex + 1)
    (ha : s'.activeBlocks = s.activeBlocks.insert s.nextBlockIndex)
    (hb : s'.table.block = update s.table.block src (some s.nextBlockIndex))
    (hg : s'.signals = s.signals) :
    Follows (fun t => t = s' ∧ Ready t) [] s
      ([⟨.contentBlockStart s.nextBlockIndex block, 0⟩], s') := by
  refine ⟨⟨rfl, ⟨?_, ?_⟩, ?_⟩, hg, [.opens src s.nextBlockIndex block], .single ?_, rfl, rfl⟩
  · rw [ha, hx]
    exact hs.insert
  · intro ix i hi
    have hi' : s'.table.block (.tool ix) = some i := hi
    rw [hb] at hi'
    rw [hx]
    by_cases hr : BlockSource.tool ix = src
    · rw [hr, update_self] at hi'
      obtain rfl : s.nextBlockIndex = i := by simpa using hi'
      omega
    · rw [update_of_ne hr] at hi'
      have hlt := hs.tools ix i hi'
      omega
  · rw [ht, hs.started]
  · have he : s'.table = { s.table with
        next := s.table.next + 1
        block := update s.table.block src (some s.table.next) } := by
      rw [show s.table.next = s.nextBlockIndex from rfl, ← hb]
      simp [table, ht, hx]
    rw [he]
    exact .opens hs.started hn hl

variable {pieces : List (BlockSource × BlockDelta)} {next : ℕ → ChatToMessagesStream → Step}
  {s : ChatToMessagesStream}

lemma inThinkingBlock_follows (hs : Ready s) (hn : ∀ idx s, Ready s →
      s.thinkingBlockIndex = some idx → Follows Ready pieces s (next idx s)) :
    Follows Ready pieces s (inThinkingBlock next s) := by
  unfold inThinkingBlock
  cases hi : s.thinkingBlockIndex with
  | some idx => exact hn idx s hs hi
  | none =>
    have ho := follows_opening { s with
        nextBlockIndex := s.nextBlockIndex + 1
        activeBlocks := s.activeBlocks.insert s.nextBlockIndex
        thinkingBlockIndex := some s.nextBlockIndex }
      .thinking .thinking hs hi trivial rfl rfl rfl
      (by funext src; cases src <;> simp [table, update]) rfl
    refine ho.chain ?_
    rintro s' ⟨rfl, hs'⟩
    exact hn _ _ hs' rfl

lemma inTextBlock_follows (hs : Ready s) (hn : ∀ idx s, Ready s →
      s.textBlockIndex = some idx → Follows Ready pieces s (next idx s)) :
    Follows Ready pieces s (inTextBlock next s) := by
  unfold inTextBlock
  cases hi : s.textBlockIndex with
  | some idx => exact hn idx s hs hi
  | none =>
    have ho := follows_opening { s with
        nextBlockIndex := s.nextBlockIndex + 1
        activeBlocks := s.activeBlocks.insert s.nextBlockIndex
        textBlockIndex := some s.nextBlockIndex }
      .text .text hs hi trivial rfl rfl rfl
      (by funext src; cases src <;> simp [table, update]) rfl
    refine ho.chain ?_
    rintro s' ⟨rfl, hs'⟩
    exact hn _ _ hs' rfl

def toolPieces (tc : ToolCallDelta) : List (BlockSource × BlockDelta) :=
  if tc.arguments = "" then [] else [(.tool tc.index, .inputJSON tc.arguments)]

/-- The arguments of a call go to its block. -/
lemma arguments_follows (hs : Ready s) (tc : ToolCallDelta) (idx : ℕ)
    (hi : s.oaiToAnthropicIndex.lookup tc.index = some idx) :
    Follows Ready (toolPieces tc) s
      (if tc.arguments = "" then [] else [⟨.contentBlockDelta idx (.inputJSON tc.arguments), 0⟩],
        { s with hasToolUse := true }) := by
  have hr : Ready { s with hasToolUse := true } := ⟨⟨hs.blocks, hs.tools⟩, hs.started⟩
  unfold toolPieces
  split_ifs with ha
  · exact ⟨hr, rfl, [], .nil, rfl, rfl⟩
  · exact ⟨hr, rfl, [.adds (.tool tc.index) idx (.inputJSON tc.arguments)],
      .single (.adds hs.started hi trivial), rfl, rfl⟩

lemma toolCall_follows (tc : ToolCallDelta) (s : ChatToMessagesStream) (hs : Ready s) :
    Follows Ready (toolPieces tc) s (toolCall tc s) := by
  unfold toolCall toolBlock
  cases hi : s.oaiToAnthropicIndex.lookup tc.index with
  | some idx =>
    have hm : idx ∈ s.activeBlocks := hs.mem_iff.mpr (hs.tools tc.index idx hi)
    dsimp only
    rw [if_pos hm, insert_of_mem hm]
    exact arguments_follows hs tc idx hi
  | none =>
    have he : s.nextBlockIndex ∉ s.activeBlocks := by
      rw [hs.mem_iff]
      omega
    dsimp only
    rw [if_neg he]
    let s₁ : ChatToMessagesStream := { s with
        activeBlocks := s.activeBlocks.insert s.nextBlockIndex
        oaiToAnthropicIndex := (tc.index, s.nextBlockIndex) :: s.oaiToAnthropicIndex
        nextBlockIndex := s.nextBlockIndex + 1 }
    have htb : s₁.table.block = update s.table.block (.tool tc.index) (some s.nextBlockIndex) := by
      funext src
      cases src with
      | thinking | text => simp [s₁, table, update]
      | tool ix =>
        by_cases hn : ix = tc.index
        · simp [s₁, table, update, hn]
        · have hb : (ix == tc.index) = false := beq_eq_false_iff_ne.mpr hn
          simp [s₁, table, update, hn, lookup_cons, hb]
    have ho := follows_opening s₁ (.tool tc.index)
      (.toolUse (normalizeToolUseID tc.id) tc.name) hs hi trivial rfl rfl rfl htb rfl
    have hc := ho.chain fun t ht => arguments_follows ht.2 tc s.nextBlockIndex
      (by rw [ht.1]; simp [s₁])
    exact hc

lemma startMessage_chain {f : ChatToMessagesStream → Step} (hs : Active s)
    (hf : ∀ s, Ready s → Follows Ready pieces s (f s)) :
    Follows Active pieces s (chain (startMessage s) f) :=
  ((startMessage_follows hs).chain hf).mono fun _ h => h.toActive

/-- What the delta of a choice adds, in the order in which it is sent. -/
def deltaPieces (delta : ChatDelta) : List (BlockSource × BlockDelta) :=
  let reasoning := chatMessagesStreamReasoning delta
  (if reasoning = "" then [] else [(.thinking, .thinking reasoning)]) ++
    (if delta.content = "" then [] else [(.text, .text delta.content)]) ++
    delta.toolCalls.flatMap toolPieces

lemma feedThinking_follows (thinking : String) (hs : Active s) :
    Follows Active (if thinking = "" then [] else [(.thinking, .thinking thinking)]) s
      (feedThinking thinking s) := by
  unfold feedThinking
  split_ifs
  · exact .nothing hs
  · exact startMessage_chain hs fun s hs => inThinkingBlock_follows hs fun idx s hs hi =>
      emitThinkingDelta_follows hs hi thinking

lemma feedText_follows (ct : String) (hs : Active s) :
    Follows Active (if ct = "" then [] else [(.text, .text ct)]) s
      (feedText ct s) := by
  unfold feedText
  split_ifs
  · exact .nothing hs
  · exact startMessage_chain hs fun s hs => inTextBlock_follows hs fun idx s hs hi =>
      emitTextDelta_follows hs hi ct

lemma feedToolCalls_follows (toolCalls : List ToolCallDelta) (hs : Active s) :
    Follows Active (toolCalls.flatMap toolPieces) s (feedToolCalls toolCalls s) := by
  unfold feedToolCalls
  split_ifs with hc
  · subst hc
    exact .nothing hs
  · exact startMessage_chain hs (Follows.chainAll toolCall_follows toolCalls)

lemma feedDelta_follows (delta : ChatDelta) (hs : Active s) :
    Follows Active (deltaPieces delta) s (feedDelta delta s) :=
  ((feedThinking_follows _ hs).chain fun _ hs => feedText_follows _ hs).chain
    fun _ hs => feedToolCalls_follows _ hs

/-! ## Frames -/

def firstChoice (d : Decoders) (data : Bytes) : Option ChatChoice :=
  if data = ascii "[DONE]" then none
  else (d.messagesChunk data).bind fun chunk => chunk.choices.head?

/-- The frame says that the answer is complete. -/
def Completes (d : Decoders) (data : Bytes) : Prop :=
  data = ascii "[DONE]" ∨
    ∃ choice ∈ firstChoice d data, ∃ reason ∈ choice.finishReason, reason ≠ ""

def framePieces (d : Decoders) (data : Bytes) : List (BlockSource × BlockDelta) :=
  (firstChoice d data).toList.flatMap fun choice => deltaPieces choice.delta

/-- The events and the machine after a frame. -/
def feed (d : Decoders) (data : Bytes) (s : ChatToMessagesStream) : Step :=
  ((feedJSON d data s).1, (feedJSON d data s).2.2)

/-- What a frame can do to a machine that is not finished. -/
inductive Fed (d : Decoders) (data : Bytes) (s : ChatToMessagesStream) : Step → Prop
  | done (hdone : data = ascii "[DONE]") : Fed d data s ([], { s with sawDone := true })
  | skipped (hdone : data ≠ ascii "[DONE]") (hchoice : firstChoice d data = none)
      (usage : TokenUsage) (id : String) :
      Fed d data s ([], { s with usage := usage, lastMessageID := id })
  | chosen (hdone : data ≠ ascii "[DONE]") {choice : ChatChoice}
      (hchoice : firstChoice d data = some choice) {usage : TokenUsage} {id : String} {r : Step}
      (hr : feedDelta choice.delta { s with usage := usage, lastMessageID := id } = r) :
      Fed d data s (r.1, { r.2 with
        finishReason := if choice.finishReason.getD "" = "" then r.2.finishReason
          else choice.finishReason.getD "" })

variable (d : Decoders) (frames : List Bytes)

lemma fed_feed (data : Bytes) {s : ChatToMessagesStream} (hs : Unfinished s) :
    Fed d data s (feed d data s) := by
  unfold feed feedJSON
  rw [if_neg (by simpa [Unfinished] using hs)]
  split_ifs with hd
  · exact .done hd
  · cases hh : d.messagesChunk data with
    | none => exact .skipped hd (by simp [firstChoice, hd, hh]) _ _
    | some chunk =>
      have hn : ∃ usage id, (if chunk.id = "" then
          { s with usage := s.usage.update (chatStreamUsage d data) }
        else
          { s with
            usage := s.usage.update (chatStreamUsage d data)
            lastMessageID := chunk.id }) = { s with usage := usage, lastMessageID := id } := by
        split_ifs
        · exact ⟨_, s.lastMessageID, rfl⟩
        · exact ⟨_, _, rfl⟩
      obtain ⟨usage, id, hn⟩ := hn
      dsimp only
      rw [hn]
      cases hchc : chunk.choices with
      | nil => exact .skipped hd (by simp [firstChoice, hd, hh, hchc]) _ _
      | cons choice rest =>
        have hch : firstChoice d data = some choice := by
          simp [firstChoice, hd, hh, hchc]
        have hc := @Fed.chosen d data s hd choice hch usage id _ rfl
        dsimp only
        split_ifs with hr
        · rw [if_pos hr] at hc
          exact hc
        · rw [if_neg hr] at hc
          exact hc

def Signalled (s : ChatToMessagesStream) : Prop := s.finishReason ≠ "" ∨ s.sawDone = true

/-- What the frames `frames` do to a machine. -/
structure FedAll (d : Decoders) (frames : List Bytes) (s : ChatToMessagesStream) (r : Step) :
    Prop where
  unfinished : Unfinished r.2
  active : Active r.2
  signalled : Signalled r.2 ↔ Signalled s ∨ ∃ data ∈ frames, Completes d data
  moves : Moves (frames.flatMap (framePieces d)) s r

lemma Fed.fedAll {d : Decoders} {data : Bytes} {s : ChatToMessagesStream} {r : Step}
    (h : Fed d data s r) (hs : Unfinished s) (ha : Active s) : FedAll d [data] s r := by
  have hp : [data].flatMap (framePieces d) =
      (firstChoice d data).toList.flatMap fun ch => deltaPieces ch.delta := by
    simp [framePieces]
  cases h with
  | done hd =>
    refine ⟨hs, ⟨ha.blocks, ha.tools⟩, by simp [Signalled, Completes, hd], ?_⟩
    have hn : firstChoice d data = none := by simp [firstChoice, hd]
    rw [hp, hn]
    exact ⟨[], .nil, rfl, rfl⟩
  | skipped hd hc usage id =>
    refine ⟨hs, ⟨ha.blocks, ha.tools⟩, by simp [Signalled, Completes, hd, hc], ?_⟩
    rw [hp, hc]
    exact ⟨[], .nil, rfl, rfl⟩
  | @chosen hd ch hc usage id r hr =>
    have hl := feedDelta_follows (s := { s with usage := usage, lastMessageID := id })
      ch.delta ⟨ha.blocks, ha.tools⟩
    rw [hr] at hl
    obtain ⟨hlf, hg, hm⟩ := hl
    have hi : r.2.finished = s.finished := congrArg Prod.fst hg
    have hrs : r.2.finishReason = s.finishReason := congrArg (·.2.1) hg
    have hd' : r.2.sawDone = s.sawDone := congrArg (·.2.2) hg
    refine ⟨hi.trans hs, ⟨hlf.blocks, hlf.tools⟩, ?_, ?_⟩
    · cases hf : ch.finishReason with
      | none => simp [Signalled, Completes, hd, hc, hrs, hd', hf]
      | some reason =>
        by_cases he : reason = ""
        · simp [Signalled, Completes, hd, hc, hrs, hd', hf, he]
        · simp [Signalled, Completes, hd, hc, hd', hf, he]
    · rw [hp, hc, Option.toList_some, flatMap_singleton]
      exact hm

lemma FedAll.chain {d : Decoders} {frames frames' : List Bytes} {s : ChatToMessagesStream}
    {r : Step} {f : ChatToMessagesStream → Step} (h : FedAll d frames s r)
    (h' : FedAll d frames' r.2 (f r.2)) : FedAll d (frames ++ frames') s (chain r f) where
  unfinished := h'.unfinished
  active := h'.active
  signalled := by
    rw [show (TokenliveGateway.chain r f).2 = (f r.2).2 from rfl, h'.signalled, h.signalled,
      or_assoc]
    simp only [mem_append, or_and_right, exists_or]
  moves := by
    rw [flatMap_append]
    exact h.moves.chain h'.moves

/-- The frames of a stream, one after another. -/
def feedAll (d : Decoders) (frames : List Bytes) (s : ChatToMessagesStream) : Step :=
  chainAll (feed d) frames s

lemma fedAll_feedAll {s : ChatToMessagesStream} (hs : Unfinished s) (ha : Active s) :
    FedAll d frames s (feedAll d frames s) := by
  induction frames generalizing s with
  | nil => exact ⟨hs, ha, by simp [feedAll, chainAll], [], .nil, rfl, rfl⟩
  | cons data rest ih =>
    have hf := (fed_feed d data hs).fedAll hs ha
    exact hf.chain (ih hf.unfinished hf.active)

/-! ## The end of the stream -/

lemma closeOpenBlocks_eq (hs : Active s) : (closeOpenBlocks s).1 =
      (range s.nextBlockIndex).map fun i => ⟨.contentBlockStop i, 0⟩ := by
  have hr : s.activeBlocks.insertionSort (· ≤ ·) = range s.nextBlockIndex := by
    refine List.Perm.eq_of_pairwise (fun a b _ _ => le_antisymm)
      (pairwise_insertionSort _ _) pairwise_le_range ?_
    exact (perm_insertionSort _ _).trans hs.blocks
  rw [closeOpenBlocks, hr]

lemma ensureAnyBlock_follows (hs : Ready s) : Follows Ready [] s (ensureAnyBlock s) := by
  unfold ensureAnyBlock
  split_ifs
  · exact inTextBlock_follows hs fun _ s hs _ => .nothing hs
  · exact .nothing hs

def Ending (complete : Prop) (ending : List MessagesEvent) : Prop :=
  (complete → ∃ reason outputTokens, ending = [.messageDelta reason outputTokens, .messageStop]) ∧
    (¬complete → ending = [])

lemma finalizeSuccess_events (stopReason : String) (hs : Active s) :
    ∃ r outputTokens, Moves [] s r ∧ r.2.started = true ∧
      (finalizeSuccess stopReason s).1.map event = r.1.map event ++
          (range r.2.nextBlockIndex).map .contentBlockStop ++
          [.messageDelta stopReason outputTokens, .messageStop] := by
  obtain ⟨hr, -, hm⟩ := (startMessage_follows hs).chain fun _ hs => ensureAnyBlock_follows hs
  set r := chain (startMessage s) ensureAnyBlock
  refine ⟨r, r.2.usage.outputTokens, hm, hr.started, ?_⟩
  have he : (finalizeSuccess stopReason s).1 = r.1 ++ (closeOpenBlocks r.2).1 ++
      [⟨.messageDelta stopReason r.2.usage.outputTokens, 0⟩, ⟨.messageStop, 0⟩] := rfl
  rw [he, closeOpenBlocks_eq hr.toActive]
  simp only [map_append, map_map, map_cons, map_nil]
  rfl

/-- `Finish` may open a block, stops all blocks and then ends the answer if it is complete. -/
lemma finish_events (latestUsage : TokenUsage) (hs : Unfinished s) (ha : Active s)
    (hn : s.started = false → s.nextBlockIndex = 0) :
    ∃ r ending, Moves [] s r ∧ (Signalled s → r.2.started = true) ∧ Ending (Signalled s) ending ∧
      (finish latestUsage s).1.map event = r.1.map event ++
          (range r.2.nextBlockIndex).map .contentBlockStop ++ ending := by
  let s₀ : ChatToMessagesStream := { s with finished := true, usage := latestUsage }
  have hactive₀ : Active s₀ := ⟨ha.blocks, ha.tools⟩
  unfold finish
  rw [if_neg (by simpa [Unfinished] using hs)]
  dsimp only
  split_ifs with hc ht
  · obtain ⟨r, outputTokens, hm, ht, he⟩ :=
      finalizeSuccess_events (mapOpenAIFinishReason s.finishReason) hactive₀
    exact ⟨r, _, hm, fun _ => ht, ⟨fun _ => ⟨_, _, rfl⟩, fun h => absurd hc h⟩, he⟩
  · refine ⟨([], s), [], ⟨[], .nil, rfl, rfl⟩, fun h => absurd h hc,
      ⟨fun h => absurd h hc, fun _ => rfl⟩, ?_⟩
    rw [closeOpenBlocks_eq hactive₀]
    simp [s₀]
  · refine ⟨([], s), [], ⟨[], .nil, rfl, rfl⟩, fun h => absurd h hc,
      ⟨fun h => absurd h hc, fun _ => rfl⟩, ?_⟩
    simp [hn (by simpa using ht)]

/-! ## Whole streams -/

/-- The texts of the first choices. -/
def contentOf (d : Decoders) (frames : List Bytes) : String :=
  .join ((frames.filterMap (firstChoice d)).map fun choice => choice.delta.content)

def reasoningOf (d : Decoders) (frames : List Bytes) : String :=
  .join ((frames.filterMap (firstChoice d)).map fun choice =>
    chatMessagesStreamReasoning choice.delta)

/-- The arguments of the tool call with an index. -/
def argumentsOf (d : Decoders) (frames : List Bytes) (index : ℤ) : String :=
  .join (((frames.filterMap (firstChoice d)).flatMap fun choice =>
    choice.delta.toolCalls).filterMap fun tc =>
      if tc.index = index then some tc.arguments else none)

lemma pieces_eq : frames.flatMap (framePieces d) =
      (frames.filterMap (firstChoice d)).flatMap fun ch => deltaPieces ch.delta := by
  induction frames with
  | nil => rfl
  | cons data rest ih =>
    rw [flatMap_cons, ih, framePieces]
    cases hc : firstChoice d data with
    | none => simp [hc]
    | some ch => simp [hc]

def textPiece : BlockSource × BlockDelta → Option String
  | (_, .text text) => some text
  | _ => none

def thinkingPiece : BlockSource × BlockDelta → Option String
  | (_, .thinking text) => some text
  | _ => none

def argumentsPiece (index : ℤ) : BlockSource × BlockDelta → Option String
  | (src, .inputJSON text) => if src = .tool index then some text else none
  | _ => none

lemma filterMap_toolPieces {g : BlockSource × BlockDelta → Option String}
    (hg : ∀ src args, g (src, .inputJSON args) = none) (toolCalls : List ToolCallDelta) :
    (toolCalls.flatMap toolPieces).filterMap g = [] := by
  rw [filterMap_eq_nil_iff]
  intro piece hm
  obtain ⟨tc, -, ht⟩ := mem_flatMap.mp hm
  unfold toolPieces at ht
  split_ifs at ht with ha
  · simp at ht
  · obtain rfl := mem_singleton.mp ht
    exact hg _ _

lemma join_textPieces :
    String.join ((frames.flatMap (framePieces d)).filterMap textPiece) = contentOf d frames := by
  rw [pieces_eq, join_filterMap_flatMap, contentOf]
  congr 2
  funext choice
  unfold deltaPieces
  rw [filterMap_append, filterMap_append, filterMap_toolPieces (fun _ _ => rfl)]
  split_ifs with hr hc hc <;> simp [textPiece, filterMap_cons, *]

lemma join_thinkingPieces : String.join ((frames.flatMap (framePieces d)).filterMap thinkingPiece) =
      reasoningOf d frames := by
  rw [pieces_eq, join_filterMap_flatMap, reasoningOf]
  congr 2
  funext choice
  unfold deltaPieces
  rw [filterMap_append, filterMap_append, filterMap_toolPieces (fun _ _ => rfl)]
  split_ifs with hr hc hc <;> simp [thinkingPiece, filterMap_cons, *]

lemma join_argumentsPieces (index : ℤ) :
    String.join ((frames.flatMap (framePieces d)).filterMap (argumentsPiece index)) =
      argumentsOf d frames index := by
  rw [pieces_eq, join_filterMap_flatMap, argumentsOf, join_filterMap_flatMap]
  congr 2
  funext choice
  -- the thinking and the text are no arguments
  have hc : (deltaPieces choice.delta).filterMap (argumentsPiece index) =
      (choice.delta.toolCalls.flatMap toolPieces).filterMap (argumentsPiece index) := by
    unfold deltaPieces
    split_ifs <;> simp [argumentsPiece, filterMap_cons]
  rw [hc, join_filterMap_flatMap]
  induction choice.delta.toolCalls with
  | nil => rfl
  | cons tc rest ih =>
    rw [map_cons, String.join_cons, ih, filterMap_cons]
    by_cases hi : tc.index = index
    · by_cases ha : tc.arguments = "" <;>
        simp [toolPieces, argumentsPiece, hi, ha, String.join_cons]
    · by_cases ha : tc.arguments = "" <;>
        simp [toolPieces, argumentsPiece, hi, ha]

/-- What the client gets for `frames`: the events of `FeedJSON` and those of `Finish`. -/
structure WellFormed (d : Decoders) (frames : List Bytes) (fed finished : List MessagesEvent) :
    Prop where
  /-- one `message_start`, which comes first -/
  start : fed ++ finished = [] ∨ ∃ first rest, fed ++ finished = first :: rest ∧
    first.type = "message_start" ∧ ∀ e ∈ rest, e.type ≠ "message_start"
  /-- the blocks are started in order, and used and stopped while they are open -/
  blocks : ∃ n, ItemStreams.Complete ContentBlock.Fits ContentBlock.Stops n
    ((fed ++ finished).filterMap MessagesEvent.mark)
  stops : ∀ e ∈ fed, e.type ≠ "content_block_stop"
  complete : (∃ data ∈ frames, Completes d data) → ∃ front reason outputTokens,
    fed ++ finished = front ++ [.messageDelta reason outputTokens, .messageStop] ∧
      ∀ e ∈ front, e.type ≠ "message_delta" ∧ e.type ≠ "message_stop"
  incomplete : (¬∃ data ∈ frames, Completes d data) →
    ∀ e ∈ fed ++ finished, e.type ≠ "message_delta" ∧ e.type ≠ "message_stop"
  text : .join ((fed ++ finished).filterMap MessagesEvent.textDelta) = contentOf d frames
  thinking : .join ((fed ++ finished).filterMap MessagesEvent.thinkingDelta) = reasoningOf d frames
  /-- every tool call has a block of its own for its arguments -/
  arguments : ∃ block : ℤ → Option ℕ,
    (∀ index index' i, block index = some i → block index' = some i → index = index') ∧
    (∀ index i, block index = some i →
      ∃ id name, .contentBlockStart i (.toolUse id name) ∈ fed ++ finished) ∧
    (∀ i text, .contentBlockDelta i (.inputJSON text) ∈ fed ++ finished →
      ∃ index, block index = some i) ∧
    ∀ index, .join ((fed ++ finished).filterMap (MessagesEvent.argumentsDelta (block index))) =
      argumentsOf d frames index

section
variable {moves : List BlockMove} {b : BlockTable}

/-- A closed stream: the events of its moves, the stops of its blocks, and its ending. -/
def closedEvents (moves : List BlockMove) (n : ℕ) (ending : List MessagesEvent) :
    List MessagesEvent :=
  moves.map BlockMove.event ++ (List.range n).map .contentBlockStop ++ ending

/-- What is added to the blocks of a closed stream is what its moves add. -/
lemma filterMap_closed {ending : List MessagesEvent} {completed : Prop} {α : Type*}
    {f : MessagesEvent → Option α} {g : BlockSource × BlockDelta → Option α}
    (he : Ending completed ending)
    (hm : ∀ move ∈ moves, f move.event = move.piece.bind g)
    (hs : ∀ i, f (.contentBlockStop i) = none)
    (hd : ∀ reason outputTokens, f (.messageDelta reason outputTokens) = none)
    (hl : f .messageStop = none) (n : ℕ) :
    (closedEvents moves n ending).filterMap f = (moves.filterMap BlockMove.piece).filterMap g := by
  have hn : ending.filterMap f = [] := by
    by_cases hc : completed
    · obtain ⟨reason, outputTokens, rfl⟩ := he.1 hc
      simp [hd, hl]
    · rw [he.2 hc, filterMap_nil]
  have ht : ((range n).map contentBlockStop).filterMap f = [] := by
    rw [filterMap_map, filterMap_eq_nil_iff]
    exact fun i _ => hs i
  rw [closedEvents, filterMap_append, filterMap_append, hn, ht,
    append_nil, append_nil, filterMap_map, filterMap_filterMap]
  exact filterMap_congr hm

/-- The closed stream that `frames` become. -/
structure Closed (d : Decoders) (frames : List Bytes) (moves : List BlockMove) (b : BlockTable)
    (ending : List MessagesEvent) : Prop where
  trace : Trace BlockTable.Step {} moves b
  pieces : moves.filterMap BlockMove.piece = frames.flatMap (framePieces d)
  started : (∃ data ∈ frames, Completes d data) → b.started = true
  ending : Ending (∃ data ∈ frames, Completes d data) ending

variable {d : Decoders} {frames : List Bytes} {ending : List MessagesEvent}
  (h : Closed d frames moves b ending)
include h

lemma Closed.start : closedEvents moves b.next ending = [] ∨
      ∃ fst rest, closedEvents moves b.next ending = fst :: rest ∧
      fst.type = "message_start" ∧ ∀ e ∈ rest, e.type ≠ "message_start" := by
  have hb := begun h.trace
  cases hs : b.started with
  | false =>
    have hi : ¬∃ data ∈ frames, Completes d data := by
      intro hc
      simp [h.started hc] at hs
    obtain ⟨rfl, rfl⟩ := eq_of_not_started h.trace hs
    left
    rw [h.ending.2 hi]
    rfl
  | true =>
    rw [hs] at hb
    obtain ⟨fst, rest, rfl, hf, hr⟩ := hb
    refine .inr ⟨fst.event, _, rfl, hf, fun e he => ?_⟩
    simp only [append_eq, mem_append, mem_map] at he
    rcases he with (⟨move, hm, rfl⟩ | ⟨i, -, rfl⟩) | he
    · exact hr move hm
    · simp [type]
    · by_cases hc : ∃ data ∈ frames, Completes d data
      · obtain ⟨reason, outputTokens, rfl⟩ := h.ending.1 hc
        simp only [mem_cons, not_mem_nil, or_false] at he
        rcases he with rfl | rfl <;> simp [type]
      · simp [h.ending.2 hc] at he

omit h in
lemma type_closedEvents (n : ℕ) :
    ∀ e ∈ closedEvents moves n [], e.type ≠ "message_delta" ∧ e.type ≠ "message_stop" := by
  intro e he
  rw [closedEvents, append_nil] at he
  rcases mem_append.mp he with he | he
  · obtain ⟨move, -, rfl⟩ := mem_map.mp he
    exact (type_event move).2
  · obtain ⟨i, -, rfl⟩ := mem_map.mp he
    simp [type]

lemma Closed.blocks : ItemStreams.Complete ContentBlock.Fits ContentBlock.Stops b.next
      ((closedEvents moves b.next ending).filterMap mark) := by
  have he : ending.filterMap mark = [] := by
    by_cases hc : ∃ data ∈ frames, Completes d data
    · obtain ⟨reason, outputTokens, rfl⟩ := h.ending.1 hc
      rfl
    · rw [h.ending.2 hc, filterMap_nil]
  rw [closedEvents, filterMap_append, he, append_nil]
  exact complete_stopped h.trace

lemma Closed.text : .join ((closedEvents moves b.next ending).filterMap textDelta) =
      contentOf d frames := by
  have ht : ∀ move ∈ moves, move.event.textDelta = move.piece.bind textPiece := by
    rintro (_ | _ | ⟨_, _, _ | _ | _⟩) - <;> rfl
  rw [filterMap_closed h.ending ht (fun _ => rfl) (fun _ _ => rfl) rfl, h.pieces, join_textPieces]

lemma Closed.thinking : .join ((closedEvents moves b.next ending).filterMap thinkingDelta) =
      reasoningOf d frames := by
  have ht : ∀ move ∈ moves, move.event.thinkingDelta = move.piece.bind thinkingPiece := by
    rintro (_ | _ | ⟨_, _, _ | _ | _⟩) - <;> rfl
  rw [filterMap_closed h.ending ht (fun _ => rfl) (fun _ _ => rfl) rfl, h.pieces,
    join_thinkingPieces]

lemma Closed.arguments (index : ℤ) : .join ((closedEvents moves b.next ending).filterMap
      (argumentsDelta (b.block (.tool index)))) = argumentsOf d frames index := by
  obtain ⟨xs, hk⟩ := exists_kept h.trace
  -- an index is that of the tool exactly if the source is the tool
  have ha : ∀ move ∈ moves, move.event.argumentsDelta (b.block (.tool index)) =
      move.piece.bind (argumentsPiece index) := by
    rintro (_ | _ | ⟨src, i, _ | _ | text⟩) hm
    all_goals try rfl
    obtain ⟨hi, -⟩ := block_of_adds h.trace src i _ hm
    have hf : b.block (.tool index) = some i ↔ src = .tool index :=
      ⟨fun hn => hk.injective _ _ i hi hn, fun hs => hs ▸ hi⟩
    simp [BlockMove.event, argumentsDelta, BlockMove.piece, argumentsPiece, hf]
  rw [filterMap_closed h.ending ha (fun _ => rfl) (fun _ _ => rfl) rfl, h.pieces,
    join_argumentsPieces]

lemma Closed.toolUse {ix : ℤ} {i : ℕ} (hi : b.block (.tool ix) = some i) :
    ∃ id name, .contentBlockStart i (.toolUse id name) ∈ closedEvents moves b.next ending := by
  obtain ⟨xs, hk⟩ := exists_kept h.trace
  obtain ⟨block, hs, ht⟩ := hk.block _ i hi
  obtain ⟨e, he, hm⟩ := mem_filterMap.mp (Run.mem_of_getElem? hk.run ht)
  cases block with
  | toolUse id name =>
    refine ⟨id, name, mem_append_left _ (mem_append_left _ ?_)⟩
    cases e <;> simp [mark] at hm
    obtain ⟨rfl, rfl⟩ := hm
    exact he
  | _ => exact hs.elim

lemma Closed.argumentsBlock {i : ℕ} {text : String}
    (he : .contentBlockDelta i (.inputJSON text) ∈ closedEvents moves b.next ending) :
    ∃ ix, b.block (.tool ix) = some i := by
  have hv : contentBlockDelta i (.inputJSON text) ∈ moves.map BlockMove.event := by
    rcases mem_append.mp he with he | he
    · rcases mem_append.mp he with he | he
      · exact he
      · simp at he
    · by_cases hc : ∃ data ∈ frames, Completes d data
      · obtain ⟨reason, outputTokens, rfl⟩ := h.ending.1 hc
        simp at he
      · simp [h.ending.2 hc] at he
  obtain ⟨move, hm, ho⟩ := mem_map.mp hv
  cases move with
  | adds src j delta =>
    obtain ⟨rfl, rfl⟩ : j = i ∧ delta = .inputJSON text := by simpa [BlockMove.event] using ho
    obtain ⟨hi, hr⟩ := block_of_adds h.trace src j _ hm
    cases src with
    | tool ix => exact ⟨ix, hi⟩
    | _ => exact hr.elim
  | _ => simp [BlockMove.event] at ho

lemma Closed.wellFormed {fed finished : List MessagesEvent}
    (hv : fed ++ finished = closedEvents moves b.next ending)
    (hf : ∀ e ∈ fed, e ∈ moves.map BlockMove.event) : WellFormed d frames fed finished := by
  refine ⟨?_, ?_, ?_, ?_, ?_, ?_, ?_, ?_⟩
  all_goals try rw [hv]
  · exact h.start
  · exact ⟨_, h.blocks⟩
  · intro e he
    obtain ⟨move, -, rfl⟩ := mem_map.mp (hf e he)
    exact (type_event move).1
  · intro hc
    obtain ⟨reason, outputTokens, rfl⟩ := h.ending.1 hc
    refine ⟨closedEvents moves b.next [], reason, outputTokens, ?_, type_closedEvents _⟩
    simp [closedEvents]
  · intro hn
    rw [h.ending.2 hn]
    exact type_closedEvents _
  · exact h.text
  · exact h.thinking
  · obtain ⟨xs, hk⟩ := exists_kept h.trace
    refine ⟨fun ix => b.block (.tool ix), ?_, ?_, ?_, h.arguments⟩
    · intro ix ix' i hi hi'
      exact BlockSource.tool.inj (hk.injective _ _ i hi hi')
    · exact fun ix i hi => h.toolUse hi
    · exact fun i text he => h.argumentsBlock he

end

inductive Call where
  | feedJSON (data : Bytes)
  | finish (latestUsage : TokenUsage)

def call (d : Decoders) : Call → ChatToMessagesStream → Step
  | .feedJSON data, s => feed d data s
  | .finish latestUsage, s => ((finish latestUsage s).1, (finish latestUsage s).2.2)

lemma chainAll_call_finished (cs : List Call) {s : ChatToMessagesStream}
    (hs : s.finished = true) : chainAll (call d) cs s = ([], s) := by
  induction cs with
  | nil => rfl
  | cons c rest ih =>
    have hc : call d c s = ([], s) := by
      cases c <;> simp [call, feed, ChatToMessagesStream.feedJSON, ChatToMessagesStream.finish, hs]
    rw [chainAll, chain, hc, ih]
    rfl

lemma finish_finished (latestUsage : TokenUsage) (hs : Active s) :
    (finish latestUsage s).2.2.finished = true := by
  unfold finish
  split_ifs with hf
  · exact hf
  · dsimp only
    split_ifs
    · obtain ⟨-, hg, -⟩ := (startMessage_follows (s := { s with
          finished := true
          usage := latestUsage }) ⟨hs.blocks, hs.tools⟩).chain
        fun _ hs => ensureAnyBlock_follows hs
      exact congrArg Prod.fst hg
    · rfl
    · rfl

lemma table_new (model : String) (usage : TokenUsage) :
    table { model := model, usage := usage } = {} := by
  have hb : (table { model := model, usage := usage }).block = fun _ => none := by
    funext src
    cases src <;> rfl
  rw [← hb]
  rfl

end ChatToMessagesStream
end TokenliveGateway
