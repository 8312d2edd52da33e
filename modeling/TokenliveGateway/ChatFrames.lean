import TokenliveGateway.ChatResponsesTrace

/-!
# What the frames of a Chat stream leave behind

A frame changes the texts and the tool calls of `ChatToResponsesStream` only by the delta
of its first choice; the rest of it goes into fields that no item depends on. So what holds
of the items after a whole stream follows from what one delta does.
-/
namespace TokenliveGateway
open EventStreams GoStrings

namespace ChatToResponsesStream

def frameDelta (d : Decoders) (data : Bytes) : Option ChatDelta :=
  if IsDone data then none
  else (d.responsesChunk data).bind fun chunk => chunk.choices.head?.map ChatChoice.delta

def frameDeltas (d : Decoders) (frames : List Frame) : List ChatDelta :=
  frames.filterMap fun frame => frameDelta d frame.2

/-- The frame is a chunk. -/
def IsChunk (d : Decoders) (data : Bytes) : Prop :=
  ¬IsDone data ∧ (d.responsesChunk data).isSome

/-- The two machines have the same texts and tool calls. -/
structure Like (s s' : ChatToResponsesStream) : Prop where
  mapper : s'.mapper = s.mapper
  finished : s'.finished = s.finished
  fullText : s'.fullText = s.fullText
  fullReasoning : s'.fullReasoning = s.fullReasoning
  text : s'.textOutputIndex = s.textOutputIndex
  reasoning : s'.reasoningOutputIndex = s.reasoningOutputIndex
  calls : s'.localToolCalls = s.localToolCalls

lemma feedReasoning_state (rs : String) (s : ChatToResponsesStream) :
    ∃ ix next, (feedReasoning rs s).2 = { s with
          reasoningOutputIndex := ix
          currentOutputIndex := next
          fullReasoning := s.fullReasoning ++ rs } ∧
      (ix = none ↔ s.reasoningOutputIndex = none ∧ rs = "") := by
  unfold feedReasoning
  split_ifs with he
  · subst he
    exact ⟨_, _, by rw [String.append_empty], by simp⟩
  · unfold sendResponsesReasoningDelta
    cases hi : s.reasoningOutputIndex with
    | some i =>
      refine ⟨some i, s.currentOutputIndex, ?_, by simp⟩
      show ({ s with fullReasoning := s.fullReasoning ++ rs } : ChatToResponsesStream) = _
      rw [← hi]
    | none => exact ⟨some s.currentOutputIndex, s.currentOutputIndex + 1, rfl, by simp [he]⟩

lemma feedText_state (text : String) (s : ChatToResponsesStream) :
    ∃ ix next, (feedText text s).2 = { s with
          textOutputIndex := ix
          currentOutputIndex := next
          fullText := s.fullText ++ text } ∧
      (ix = none ↔ s.textOutputIndex = none ∧ text = "") := by
  unfold feedText
  split_ifs with he
  · subst he
    exact ⟨_, _, by rw [String.append_empty], by simp⟩
  · unfold sendPlainResponsesText
    cases hi : s.textOutputIndex with
    | some i =>
      refine ⟨some i, s.currentOutputIndex, ?_, by simp⟩
      show ({ s with fullText := s.fullText ++ text } : ChatToResponsesStream) = _
      rw [← hi]
    | none => exact ⟨some s.currentOutputIndex, s.currentOutputIndex + 1, rfl, by simp [he]⟩

lemma feedDelta_eq (delta : ChatDelta) (s : ChatToResponsesStream) :
    ∃ evs rs text next, feedDelta delta s = chain (evs, { s with
            reasoningOutputIndex := rs
            textOutputIndex := text
            currentOutputIndex := next
            fullReasoning := s.fullReasoning ++ chatResponsesReasoning delta
            fullText := s.fullText ++ delta.content })
          (chainAll toolCall delta.toolCalls) ∧
      (rs = none ↔ s.reasoningOutputIndex = none ∧ chatResponsesReasoning delta = "") ∧
      (text = none ↔ s.textOutputIndex = none ∧ delta.content = "") := by
  obtain ⟨rs, next, hr, hf⟩ := feedReasoning_state (chatResponsesReasoning delta) s
  obtain ⟨text, next', ht, hc⟩ :=
    feedText_state delta.content (feedReasoning (chatResponsesReasoning delta) s).2
  have hs : (chain (feedReasoning (chatResponsesReasoning delta) s) (feedText delta.content)).2 =
      { s with
        reasoningOutputIndex := rs
        textOutputIndex := text
        currentOutputIndex := next'
        fullReasoning := s.fullReasoning ++ chatResponsesReasoning delta
        fullText := s.fullText ++ delta.content } := by
    rw [chain, ht, hr]
  rw [hr] at hc
  refine ⟨(chain (feedReasoning (chatResponsesReasoning delta) s) (feedText delta.content)).1,
    rs, text, next', ?_, hf, hc⟩
  rw [← hs]
  rfl

/-- Tool calls change nothing but the entries and the next index. -/
lemma toolCalls_state (ds : List ToolCallDelta) (s : ChatToResponsesStream) :
    ∃ next cs, (chainAll toolCall ds s).2 =
      { s with currentOutputIndex := next, localToolCalls := cs } := by
  induction ds generalizing s with
  | nil => exact ⟨_, _, rfl⟩
  | cons tc ds ih =>
    obtain ⟨next, hf⟩ := toolCall_state tc s
    obtain ⟨next', cs, hr⟩ := ih (toolCall tc s).2
    refine ⟨next', cs, ?_⟩
    rw [chainAll, chain, hr, hf]

lemma feedDelta_running (delta : ChatDelta) (s : ChatToResponsesStream) :
    (feedDelta delta s).2.started = s.started ∧ (feedDelta delta s).2.finished = s.finished := by
  obtain ⟨evs, rs, text, next, hd, -, -⟩ := feedDelta_eq delta s
  rw [hd, chain]
  obtain ⟨next', cs, hc⟩ := toolCalls_state delta.toolCalls { s with
      reasoningOutputIndex := rs
      textOutputIndex := text
      currentOutputIndex := next
      fullReasoning := s.fullReasoning ++ chatResponsesReasoning delta
      fullText := s.fullText ++ delta.content }
  rw [hc]
  exact ⟨rfl, rfl⟩

/-- `feedDelta`, if there is a delta. -/
def feedRead (delta : Option ChatDelta) (s : ChatToResponsesStream) : Step :=
  (delta.map fun delta => feedDelta delta s).getD ([], s)

section
variable {d : Decoders} {frame : Frame} {s : ChatToResponsesStream}

lemma feed_undecoded (hs : s.finished = false) (hd : ¬IsDone frame.2)
    (hc : d.responsesChunk frame.2 = none) :
    feed d frame s = ([], noteFinish d frame.2
        { s with usage := s.usage.update (chatStreamUsage d frame.2) }) := by
  unfold IsDone at hd
  unfold feed feedJSON
  rw [if_neg (by simp [hs]), if_neg hd]
  rw [hc]

lemma feedChoices_eq (chunk : ChatChunk) :
    feedChoices chunk = feedRead (chunk.choices.head?.map ChatChoice.delta) := by
  funext s
  unfold feedChoices feedRead
  cases chunk.choices <;> rfl

lemma start_state (now : ℤ) (s : ChatToResponsesStream) :
    (start now s).2 = { s with started := true } := by
  unfold start
  split_ifs with hs
  · rw [← hs]
  · rfl

/-- A frame first changes fields that no item depends on, and then its delta is read. -/
lemma feed_eq (d : Decoders) (frame : Frame) (hs : s.finished = false) :
    ∃ evs s', feed d frame s = chain (evs, s') (feedRead (frameDelta d frame.2)) ∧ Like s s' ∧
      (s'.started = true ↔ s.started = true ∨ IsChunk d frame.2) := by
  unfold frameDelta IsChunk
  by_cases hd : IsDone frame.2
  · rw [if_pos hd, feed_done hs hd]
    exact ⟨[], _, rfl, ⟨rfl, rfl, rfl, rfl, rfl, rfl, rfl⟩, by simp [hd]⟩
  · rw [if_neg hd]
    cases hc : d.responsesChunk frame.2 with
    | none =>
      rw [feed_undecoded hs hd hc, noteFinish_fields]
      exact ⟨[], _, rfl, ⟨rfl, rfl, rfl, rfl, rfl, rfl, rfl⟩, by simp⟩
    | some chunk =>
      obtain ⟨usage, finishReason, lastModel, hn⟩ := noted_eq d frame.2 chunk s
      rw [feed_chunk frame hs hd hc, feedChoices_eq]
      refine ⟨(start frame.1 (noted d frame.2 chunk s)).1,
        (start frame.1 (noted d frame.2 chunk s)).2, rfl, ?_, ?_⟩
      · rw [start_state, hn]
        exact ⟨rfl, rfl, rfl, rfl, rfl, rfl, rfl⟩
      · rw [start_state]
        simp [hd]

/-- What the changed fields and every delta keep holds after all frames. -/
lemma frames_induction {P : List ChatDelta → Step → Prop}
    (hfn : ∀ fed r, P fed r → r.2.finished = false)
    (hk : ∀ fed r evs s', P fed r → Like r.2 s' → P fed (r.1 ++ evs, s'))
    (hl : ∀ fed r delta, P fed r → P (fed ++ [delta]) (chain r (feedDelta delta)))
    (hs : P [] ([], s)) (fs : List Frame) :
    P (frameDeltas d fs) (chainAll (feed d) fs s) := by
  induction fs using List.reverseRecOn with
  | nil => exact hs
  | append_singleton fs frame ih =>
    obtain ⟨evs, s', hfd, ht, -⟩ := feed_eq d frame (hfn _ _ ih)
    have hr : chain (chainAll (feed d) fs s) (feed d frame) =
        chain ((chainAll (feed d) fs s).1 ++ evs, s') (feedRead (frameDelta d frame.2)) := by
      rw [chain, hfd]
      simp [chain]
    have hn := hk _ _ evs s' ih ht
    have hd : frameDeltas d (fs ++ [frame]) =
        frameDeltas d fs ++ (frameDelta d frame.2).toList := by
      cases hf : frameDelta d frame.2 <;> simp [frameDeltas, hf]
    rw [hd, chainAll_append, chainAll_singleton, hr]
    cases frameDelta d frame.2 with
    | none =>
      have hnn : chain ((chainAll (feed d) fs s).1 ++ evs, s') (feedRead none) =
          ((chainAll (feed d) fs s).1 ++ evs, s') := by
        simp [chain, feedRead]
      rw [hnn, Option.toList_none, List.append_nil]
      exact hn
    | some delta => exact hl _ _ delta hn

/-- A stream with a chunk is started. -/
lemma frames_started (hs : s.finished = false) {fs : List Frame}
    (hc : ∃ frame ∈ fs, IsChunk d frame.2) :
    (chainAll (feed d) fs s).2.started = true ∧
      (chainAll (feed d) fs s).2.finished = false := by
  have hr : ∀ fs : List Frame, (chainAll (feed d) fs s).2.finished = false ∧
      ((∃ frame ∈ fs, IsChunk d frame.2) → (chainAll (feed d) fs s).2.started = true) := by
    intro fs
    induction fs using List.reverseRecOn with
    | nil => exact ⟨hs, by simp⟩
    | append_singleton fs frame ih =>
      obtain ⟨evs, s', hf, ht, hst⟩ := feed_eq d frame ih.1
      have hl : (chainAll (feed d) (fs ++ [frame]) s).2 =
          (feedRead (frameDelta d frame.2) s').2 := by
        rw [chainAll_append, chainAll_singleton, chain, hf]
        rfl
      have hd : (feedRead (frameDelta d frame.2) s').2.started = s'.started ∧
          (feedRead (frameDelta d frame.2) s').2.finished = s'.finished := by
        cases frameDelta d frame.2 with
        | none => exact ⟨rfl, rfl⟩
        | some delta => exact feedDelta_running delta s'
      rw [hl, hd.1, hd.2, ht.finished]
      refine ⟨ih.1, ?_⟩
      rintro ⟨chunk, hm, hc⟩
      rw [hst]
      rcases List.mem_append.mp hm with hm | hm
      · exact .inl (ih.2 ⟨chunk, hm, hc⟩)
      · rw [List.mem_singleton.mp hm] at hc
        exact .inr hc
  exact ⟨(hr fs).2 hc, (hr fs).1⟩

end

end ChatToResponsesStream
end TokenliveGateway
