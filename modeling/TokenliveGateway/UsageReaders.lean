import TokenliveGateway.MessagesResponsesTrace
import TokenliveGateway.StreamWire

/-!
# Anthropic usage

The native pass-through reads the usage of a Messages stream with
`AnthropicTokenExtractor` and takes over positive counts only, count by count. An input
that is taken over while an older cache count stays can be smaller than the cache counts.
-/
namespace TokenliveGateway
open EventStreams LabelledRuns

def AnthropicUsage.ofFields (m : Fields) : AnthropicUsage where
  inputTokens := m.int "input_tokens"
  outputTokens := m.int "output_tokens"
  cacheCreationInputTokens := m.int "cache_creation_input_tokens"
  cacheReadInputTokens := m.int "cache_read_input_tokens"

/-- The usage inside the `message` of an event. -/
def innerUsage (ev : Fields) : Option Fields :=
  (ev.object? "message").bind (Fields.object? · "usage")

def AnthropicEvent.ofFields (ev : Fields) : AnthropicEvent where
  type := ev.str "type"
  messageUsage := (innerUsage ev).map .ofFields
  usage := (ev.object? "usage").map .ofFields

/-- Decoders that know the objects of some frames, whose counts are integers. -/
def usageDecoders (objects : List (Bytes × Fields)) : Decoders :=
  { MessagesToResponsesStream.objectDecoders objects with
    anthropicEvent := fun data => (objects.lookup data).map .ofFields }

/-- `SSEInterceptWriter` on an event of a native Messages stream. -/
def noteAnthropic (d : Decoders) : GatewayContext → SSEEvent → GatewayContext :=
  noteEvent d (some (anthropicTokenExtractor d))

lemma usage_noteAnthropic (d : Decoders) (g : GatewayContext) (ev : SSEEvent) :
    (noteAnthropic d g ev).usage = g.usage.update (anthropicTokenExtractor d ev.data) := by
  unfold noteAnthropic noteEvent
  dsimp only
  split_ifs <;> rfl

/-- The input covers what the cache has read and written. -/
def CoversCache (u : TokenUsage) : Prop :=
  u.cachedTokens + u.cacheCreationTokens ≤ u.inputTokens

def AnthropicUsage.Nonneg (u : AnthropicUsage) : Prop :=
  0 ≤ u.inputTokens ∧ 0 ≤ u.outputTokens ∧ 0 ≤ u.cacheCreationInputTokens ∧
    0 ≤ u.cacheReadInputTokens

instance : DecidablePred AnthropicUsage.Nonneg := fun _ => inferInstanceAs (Decidable (_ ∧ _))

/-- The frame has no negative token count. -/
def NonnegFrame (d : Decoders) (data : Bytes) : Prop :=
  ∀ ev ∈ d.anthropicEvent data, ∀ u ∈ ev.messageUsage.toList ++ ev.usage.toList, u.Nonneg

/-- A frame that reports an input reports every cache count again that is recorded. -/
def Restates (d : Decoders) (g : GatewayContext) (ev : SSEEvent) : Prop :=
  0 < (anthropicTokenExtractor d ev.data).inputTokens →
    (0 < g.cachedTokens → 0 < (anthropicTokenExtractor d ev.data).cachedTokens) ∧
    (0 < g.cacheCreationTokens → 0 < (anthropicTokenExtractor d ev.data).cacheCreationTokens)

variable {d : Decoders} {data : Bytes} {ev : Fields}

/-- What is extracted from a frame is consistent, and without input it has no cache counts. -/
lemma anthropicTokenExtractor_covers (h : NonnegFrame d data) :
    let u := anthropicTokenExtractor d data
    CoversCache u ∧ 0 ≤ u.cachedTokens ∧ 0 ≤ u.cacheCreationTokens := by
  unfold anthropicTokenExtractor CoversCache
  cases he : d.anthropicEvent data with
  | none => exact ⟨le_rfl, le_rfl, le_rfl⟩
  | some ev =>
    have hn := h ev he
    dsimp only
    split
    · cases hu : ev.messageUsage with
      | none => exact ⟨le_rfl, le_rfl, le_rfl⟩
      | some u =>
        obtain ⟨hi, -, hc, hr⟩ := hn u (by simp [hu])
        simp only [AnthropicUsage.totalInput]
        omega
    · cases hu : ev.usage with
      | none => exact ⟨le_rfl, le_rfl, le_rfl⟩
      | some u =>
        obtain ⟨hi, -, hc, hr⟩ := hn u (by simp [hu])
        simp only [AnthropicUsage.totalInput]
        split_ifs <;> omega

lemma CoversCache.update {u new : TokenUsage} (hu : CoversCache u)
    (hn : CoversCache new ∧ 0 ≤ new.cachedTokens ∧ 0 ≤ new.cacheCreationTokens)
    (hc : 0 < new.inputTokens → 0 < u.cachedTokens → 0 < new.cachedTokens)
    (hr : 0 < new.inputTokens → 0 < u.cacheCreationTokens → 0 < new.cacheCreationTokens) :
    CoversCache (u.update new) := by
  unfold CoversCache TokenUsage.update at *
  dsimp only
  split_ifs <;> omega

/-- After each frame of a Messages stream the recorded input covers the recorded cache counts,
where every frame with an input restates the cache counts. -/
theorem recorded_input_covers_cache (d : Decoders) (g : GatewayContext) (hg : g.usage = {})
    (events : List SSEEvent) (hnonneg : ∀ ev ∈ events, NonnegFrame d ev.data)
    (hrestates : Along (noteAnthropic d) (Restates d) g events) :
    ∀ front, front <+: events → CoversCache (run (noteAnthropic d) g front).usage := by
  intro front hr
  have hf : Along (noteAnthropic d) (fun _ ev => NonnegFrame d ev.data) g front :=
    Along.of_forall_mem _ (fun ev he _ => hnonneg ev (hr.subset he)) g
  refine run_invariant_along (noteAnthropic d) (fun g => CoversCache g.usage) ?_ ?_ front
    (along_and _ (hrestates.of_isPrefix _ hr) hf)
  · intro g ev hc he
    rw [usage_noteAnthropic]
    exact hc.update (anthropicTokenExtractor_covers he.2)
      (fun hi => (he.1 hi).1) fun hi => (he.1 hi).2
  · rw [hg]
    exact le_rfl

def startFrame (usage : Fields) : Fields :=
  [("type", .str "message_start"), ("message", .object [("usage", .object usage)])]

def deltaFrame (usage : Fields) : Fields :=
  [("type", .str "message_delta"), ("usage", .object usage)]

def cachedPrompt : List (Bytes × Fields) :=
  [([0], startFrame [("input_tokens", .number 10), ("cache_read_input_tokens", .number 100)]),
    ([1], deltaFrame [("output_tokens", .number 5)])]

/-- A prompt that is read from the cache, and a frame that only reports a cache write. -/
def laterWrite : List (Bytes × Fields) :=
  [([0], startFrame [("input_tokens", .number 10), ("cache_read_input_tokens", .number 100)]),
    ([1], deltaFrame [("cache_creation_input_tokens", .number 50)])]

/-- The counts that the native reader leaves. -/
def nativeUsage (objects : List (Bytes × Fields)) : TokenUsage :=
  (run (noteAnthropic (usageDecoders objects)) { request := {} }
    (objects.map fun entry => { data := entry.1 })).usage

theorem cachedPrompt_covered : CoversCache (nativeUsage cachedPrompt) := by
  refine recorded_input_covers_cache (usageDecoders cachedPrompt) { request := {} } rfl _ ?_ ?_ _
    List.prefix_rfl
  · unfold NonnegFrame
    decide
  · refine ⟨?_, ?_, trivial⟩ <;> unfold Restates <;> decide

/-- The input is overwritten with the cache write, and the cache read stays. -/
theorem laterWrite_not_covered :
    nativeUsage laterWrite = ⟨50, 0, 100, 50⟩ ∧ ¬CoversCache (nativeUsage laterWrite) := by
  have hc : nativeUsage laterWrite = ⟨50, 0, 100, 50⟩ := by decide
  refine ⟨hc, ?_⟩
  rw [hc]
  unfold CoversCache
  decide

end TokenliveGateway
