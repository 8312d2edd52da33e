import TokenliveGateway.ChatFrames

/-!
# The identity of tools on the Chat path

A tool of a namespace is sent under a name that the mapper gives it, any other tool under its
own name. What a call is returned as depends on this name only: the client gets the pair that
the mapper restores, in the stream as well as in the answer that is not streamed. So the
round trip works for a tool exactly if its name leads back to it, which fails for tools
without a namespace whose name is not a safe one or was given to a tool of a namespace.
-/
namespace TokenliveGateway
open EventStreams GoStrings KeyedEntries ToolNameMapper List ResponsesStreamEvent

/-- The name of the call with an index: the first one in its deltas. -/
def callName (index : ℤ) (calls : List ToolCallDelta) : String :=
  ((calls.find? fun tc => tc.index = index ∧ tc.name ≠ "").map ToolCallDelta.name).getD ""

/-- The first name in the deltas of a call. -/
def firstName (deltas : List ToolCallDelta) : String :=
  ((deltas.find? fun tc => tc.name ≠ "").map ToolCallDelta.name).getD ""

lemma callName_eq (ix : ℤ) (calls : List ToolCallDelta) :
    callName ix calls = firstName (calls.filter fun tc => tc.index = ix) := by
  unfold callName firstName
  rw [find?_filter]
  simp

lemma firstName_singleton (tc : ToolCallDelta) : firstName [tc] = tc.name := by
  by_cases hn : tc.name = "" <;> simp [firstName, hn]

lemma firstName_append (ds ds' : List ToolCallDelta) :
    firstName (ds ++ ds') = if firstName ds = "" then firstName ds' else firstName ds := by
  unfold firstName
  rw [find?_append]
  cases hf : ds.find? fun tc => tc.name ≠ "" with
  | none => rfl
  | some tc =>
    have hn : tc.name ≠ "" := by simpa using find?_some hf
    exact (if_neg hn).symm

/-- A call that has a name is not restored to an empty one. -/
def Good (names : ToolNames) (deltas : List ToolCallDelta) : Prop :=
  firstName deltas ≠ "" → (names.restore (firstName deltas)).2 ≠ ""

lemma Good.front {ns : ToolNames} {ds more : List ToolCallDelta} (h : Good ns (ds ++ more)) :
    Good ns ds := by
  intro hn
  unfold Good at h
  rw [firstName_append, if_neg hn] at h
  exact h hn

namespace ChatToResponsesStream

/-! ## The entry of a call -/

/-- What a delta with the name `again` makes of the pair of an entry. -/
def restoredAgain (mapper : Option ToolNames) (pair : String × String) (again : String) :
    String × String :=
  let name := if pair.2 = "" then again else pair.2
  if pair.1 = "" then restoredName mapper name else (pair.1, name)

/-- The entry that the deltas of a call leave. -/
inductive Held (mapper : Option ToolNames) : List ToolCallDelta → ChatResponsesToolCall → Prop
  | first (tc : ToolCallDelta) (s : ChatToResponsesStream) :
      Held mapper [tc] (updated mapper tc (newToolCall tc s))
  | next {deltas : List ToolCallDelta} {t : ChatResponsesToolCall} (h : Held mapper deltas t)
      (tc : ToolCallDelta) : Held mapper (deltas ++ [tc]) (updated mapper tc t)

section
variable {mapper : Option ToolNames} {ds : List ToolCallDelta} {t : ChatResponsesToolCall}
  {calls : List ToolCallDelta} {entries : List (ℤ × ChatResponsesToolCall)}

lemma updated_known (mapper : Option ToolNames) (tc : ToolCallDelta) (hc : t.callID ≠ "") :
    let known := updated mapper tc t
    (known.toolNamespace, known.name) = restoredAgain mapper (t.toolNamespace, t.name) tc.name ∧
      known.isCustom = (t.isCustom || isCustomCall mapper known.name) ∧
      known.callID = t.callID ∧ known.arguments = t.arguments ++ tc.arguments := by
  obtain ⟨hp, hs, hi, -, -, ha⟩ := identify_known mapper tc hc
  refine ⟨hp, hs, hi, ?_⟩
  dsimp only [updated]
  rw [ha]

lemma updated_new (mapper : Option ToolNames) (tc : ToolCallDelta) (s : ChatToResponsesStream) :
    let known := updated mapper tc (newToolCall tc s)
    (known.toolNamespace, known.name) = restoredName mapper tc.name ∧
      known.isCustom = isCustomCall mapper known.name ∧
      known.callID = (newToolCall tc s).callID ∧ known.arguments = tc.arguments := by
  obtain ⟨hp, hc, hi, ha⟩ := updated_known mapper tc (new_newToolCall tc s).callID
  refine ⟨hp.trans ?_, hc, hi, ?_⟩
  · simp [restoredAgain, newToolCall]
  · rw [ha]
    exact String.empty_append

namespace Held
variable (h : Held mapper ds t)
include h

lemma callID_ne : t.callID ≠ "" := by
  induction h with
  | first tc s =>
    rw [(updated_new mapper tc s).2.2.1]
    exact (new_newToolCall tc s).callID
  | next _ tc ih =>
    rw [(updated_known mapper tc ih).2.2.1]
    exact ih

lemma ne_nil : ds ≠ [] := by
  cases h with
  | first tc s => exact cons_ne_nil _ _
  | next _ tc => simp

/-- The call id is the one of the first delta, if it has one. -/
lemma callID_eq {tc : ToolCallDelta} (hf : ds.head? = some tc)
    (hi : tc.id ≠ "") : t.callID = tc.id := by
  induction h with
  | first tc' s =>
    obtain rfl : tc' = tc := by simpa using hf
    rw [(updated_new mapper tc' s).2.2.1]
    exact if_neg hi
  | next hh tc' ih =>
    rw [(updated_known mapper tc' hh.callID_ne).2.2.1]
    rw [head?_append_of_ne_nil _ hh.ne_nil] at hf
    exact ih hf

end Held

/-- The entries that the deltas of the calls leave. -/
structure Entries (mapper : Option ToolNames) (calls : List ToolCallDelta)
    (entries : List (ℤ × ChatResponsesToolCall)) : Prop where
  keys : (entries.map Prod.fst).Nodup
  absent : ∀ index, entries.lookup index = none → calls.filter (fun tc => tc.index = index) = []
  held : ∀ index t, entries.lookup index = some t →
    Held mapper (calls.filter fun tc => tc.index = index) t

lemma Entries.put (h : Entries mapper calls entries) (tc : ToolCallDelta)
    (ht : Held mapper ((calls ++ [tc]).filter fun other => other.index = tc.index) t) :
    Entries mapper (calls ++ [tc]) (putToolCall tc.index t entries) := by
  have ho : ∀ index, index ≠ tc.index → (calls ++ [tc]).filter (fun tc => tc.index = index) =
      calls.filter fun tc => tc.index = index := by
    intro index hi
    simp [filter_append, hi.symm]
  refine ⟨nodup_putToolCall h.keys, ?_, ?_⟩
  · intro index hn
    by_cases hi : index = tc.index
    · rw [hi, lookup_putToolCall_self] at hn
      exact absurd hn (Option.some_ne_none t)
    · rw [lookup_putToolCall_of_ne hi] at hn
      rw [ho index hi]
      exact h.absent index hn
  · intro index t' hs
    by_cases hi : index = tc.index
    · rw [hi, lookup_putToolCall_self] at hs
      rw [hi, ← Option.some.inj hs]
      exact ht
    · rw [lookup_putToolCall_of_ne hi] at hs
      rw [ho index hi]
      exact h.held index t' hs

lemma Entries.step {s : ChatToResponsesStream} (h : Entries s.mapper calls s.localToolCalls)
    (tc : ToolCallDelta) : Entries s.mapper (calls ++ [tc]) (toolCall tc s).2.localToolCalls := by
  obtain ⟨next, hs⟩ := toolCall_state tc s
  rw [hs]
  refine h.put tc ?_
  rw [filter_append, filter_cons_of_pos (by simp), filter_nil, found]
  cases hl : s.localToolCalls.lookup tc.index with
  | none =>
    rw [h.absent _ hl]
    exact .first tc s
  | some t => exact .next (h.held _ t hl) tc

lemma Entries.steps {s : ChatToResponsesStream} (h : Entries s.mapper calls s.localToolCalls)
    (ds : List ToolCallDelta) :
    Entries s.mapper (calls ++ ds) (chainAll toolCall ds s).2.localToolCalls := by
  induction ds generalizing s calls with
  | nil =>
    rw [append_nil]
    exact h
  | cons tc ds ih =>
    obtain ⟨next, ht⟩ := toolCall_state tc s
    have hm : (toolCall tc s).2.mapper = s.mapper := by rw [ht]
    have hs := h.step tc
    rw [← hm] at hs
    have hr := ih hs
    rw [hm, append_assoc] at hr
    exact hr

end

/-! ## The pair of a call -/

/-- An item was announced for the entry, with what the entry says. -/
def Shown (events : List ResponsesStreamEvent) (t : ChatResponsesToolCall) : Prop :=
  ∃ respID item, .outputItemAdded respID t.outputIndex item ∈
      events.map ResponsesStreamEvent.event ∧
    item.tool? = some (t.toolNamespace, t.name) ∧ item.callID? = some t.callID

/-- The entry is announced as soon as it has a name. -/
structure Announced (events : List ResponsesStreamEvent) (t : ChatResponsesToolCall) :
    Prop where
  named : t.added = true ↔ t.name ≠ ""
  shown : t.added = true → Shown events t

/-- What is known after the deltas `calls`: their entries, and that the one with an index is
announced with a pair that stays. -/
structure Told (names : ToolNames) (index : ℤ) (calls : List ToolCallDelta) (r : Step) :
    Prop where
  mapper : r.2.mapper = some names
  entries : Entries (some names) calls r.2.localToolCalls
  announced : Good names (calls.filter fun tc => tc.index = index) →
    ∀ t, r.2.localToolCalls.lookup index = some t → Announced r.1 t

section
variable {ns : ToolNames} {ix : ℤ} {calls ds : List ToolCallDelta} {tc : ToolCallDelta}
  {evs : List ResponsesStreamEvent} {t : ChatResponsesToolCall} {s : ChatToResponsesStream}
  {r : Step}

lemma Announced.more (h : Announced evs t) (more : List ResponsesStreamEvent) :
    Announced (evs ++ more) t := by
  refine ⟨h.named, fun ha => ?_⟩
  obtain ⟨respID, item, he, hi⟩ := h.shown ha
  refine ⟨respID, item, ?_, hi⟩
  rw [map_append]
  exact mem_append_left _ he

lemma Told.alike (h : Told ns ix calls r) (more : List ResponsesStreamEvent)
    {s' : ChatToResponsesStream} (hm : s'.mapper = r.2.mapper)
    (hc : s'.localToolCalls = r.2.localToolCalls) :
    Told ns ix calls (r.1 ++ more, s') where
  mapper := hm.trans h.mapper
  entries := hc ▸ h.entries
  announced := fun hg t ht => (h.announced hg t (hc ▸ ht)).more more

/-- A pair that a name was restored to is not changed by restoring it again. -/
lemma restoredAgain_restore (hl : ns.Plain) {name : String} (hn : (ns.restore name).2 ≠ "")
    (again : String) : restoredAgain (some ns) (ns.restore name) again = ns.restore name := by
  unfold restoredAgain
  rw [if_neg hn]
  split_ifs with hs
  · rw [hl name hs]
    rfl
  · rfl

lemma toolItem_tool (t : ChatResponsesToolCall) (status input : String) :
    (toolItem t status input).tool? = some (t.toolNamespace, t.name) ∧
      (toolItem t status input).callID? = some t.callID := by
  unfold toolItem
  split_ifs <;> exact ⟨rfl, rfl⟩

/-- The entry that a delta leaves is announced, if the one it found was. -/
lemma announced_updated (tc : ToolCallDelta) (hi : (found tc s).callID ≠ "")
    (hu : (found tc s).added = true → (found tc s).name ≠ "" ∧ Shown evs (found tc s) ∧
      restoredAgain s.mapper ((found tc s).toolNamespace, (found tc s).name) tc.name =
        ((found tc s).toolNamespace, (found tc s).name)) :
    Announced (evs ++ (toolCall tc s).1) (updated s.mapper tc (found tc s)) := by
  obtain ⟨hp, -, hd, hin, ha, -⟩ := identify_known s.mapper tc hi
  cases hb : (found tc s).added with
  | true =>
    obtain ⟨hn, ⟨respID, item, he, ht, hc⟩, hr⟩ := hu hb
    obtain ⟨hs, hm⟩ := Prod.mk.inj (hp.trans hr)
    have hsh : Shown evs (updated s.mapper tc (found tc s)) := by
      refine ⟨respID, item, ?_, ?_, ?_⟩
      · exact hin ▸ he
      · exact ht.trans (by rw [← hs, ← hm]; rfl)
      · exact hc.trans (by rw [← hd]; rfl)
    have hnm : (updated s.mapper tc (found tc s)).name ≠ "" := hm ▸ hn
    have had : (updated s.mapper tc (found tc s)).added = true := by simp [updated, ha, hb]
    exact Announced.more ⟨iff_of_true had hnm, fun _ => hsh⟩ _
  | false =>
    have had : (updated s.mapper tc (found tc s)).added =
        decide ((identify s.mapper tc (found tc s)).name ≠ "") := by
      simp [updated, ha, hb]
    refine ⟨by rw [had, decide_eq_true_iff]; rfl, fun hn => ?_⟩
    obtain ⟨respID, he⟩ := toolCall_announces tc s (by simpa [had] using hn) (ha.trans hb)
    obtain ⟨ht, hc⟩ := toolItem_tool (identify s.mapper tc (found tc s)) "in_progress" ""
    refine ⟨respID, _, ?_, ht, hc⟩
    rw [map_append, mem_append]
    exact .inr (mem_map_of_mem he)

lemma feedDelta_calls (delta : ChatDelta) (s : ChatToResponsesStream) :
    ∃ evs s', feedDelta delta s = chain (evs, s') (chainAll toolCall delta.toolCalls) ∧
      s'.mapper = s.mapper ∧ s'.localToolCalls = s.localToolCalls := by
  obtain ⟨evs, rs, text, next, hd, -, -⟩ := feedDelta_eq delta s
  exact ⟨evs, _, hd, rfl, rfl⟩

variable (hempty : ns.restore "" = ("", "")) (hl : ns.Plain)
include hempty hl

/-- The pair of an entry is the one that the name of its call is restored to. -/
lemma Held.pair (h : Held (some ns) ds t) (hg : Good ns ds) :
    (t.toolNamespace, t.name) = ns.restore (firstName ds) := by
  induction h with
  | first tc s =>
    rw [(updated_new (some ns) tc s).1, firstName_singleton]
    rfl
  | @next ds t hh tc ih =>
    have hp := ih hg.front
    rw [(updated_known (some ns) tc hh.callID_ne).1, firstName_append, hp]
    split_ifs with hn
    · rw [hn, hempty, firstName_singleton]
      rfl
    · exact restoredAgain_restore hl (hg.front hn) tc.name

lemma Told.step (h : Told ns ix calls r) (tc : ToolCallDelta) :
    Told ns ix (calls ++ [tc]) (chain r (toolCall tc)) := by
  obtain ⟨next, hs⟩ := toolCall_state tc r.2
  have he : Entries r.2.mapper calls r.2.localToolCalls := h.mapper ▸ h.entries
  refine ⟨by rw [chain, hs]; exact h.mapper, h.mapper ▸ he.step tc, fun hg t ht => ?_⟩
  rw [chain, hs] at ht
  by_cases hc : tc.index = ix
  · subst hc
    rw [filter_append] at hg
    rw [lookup_putToolCall_self, Option.some.injEq] at ht
    subst ht
    cases hf : r.2.localToolCalls.lookup tc.index with
    | none =>
      have hn : found tc r.2 = newToolCall tc r.2 := by rw [found, hf]; rfl
      refine announced_updated tc (hn ▸ (new_newToolCall tc r.2).callID) fun ha => ?_
      rw [hn] at ha
      cases ha
    | some t =>
      have hn : found tc r.2 = t := by rw [found, hf]; rfl
      have hh := h.entries.held _ t hf
      refine announced_updated tc (hn ▸ hh.callID_ne) fun ha => ?_
      rw [hn] at ha ⊢
      have hk := h.announced hg.front t hf
      refine ⟨hk.named.mp ha, hk.shown ha, ?_⟩
      have hp := hh.pair hempty hl hg.front
      rw [h.mapper, hp]
      exact restoredAgain_restore hl (hp ▸ hk.named.mp ha) tc.name
  · rw [filter_append, filter_cons_of_neg (by simpa using hc), filter_nil, append_nil] at hg
    rw [lookup_putToolCall_of_ne (Ne.symm hc)] at ht
    exact (h.announced hg t ht).more _

lemma Told.steps (h : Told ns ix calls r) (ds : List ToolCallDelta) :
    Told ns ix (calls ++ ds) (chain r (chainAll toolCall ds)) := by
  induction ds using reverseRecOn with
  | nil =>
    rw [append_nil]
    exact h.alike [] rfl rfl
  | append_singleton ds tc ih =>
    have hc : chain r (chainAll toolCall (ds ++ [tc])) =
        chain (chain r (chainAll toolCall ds)) (toolCall tc) := by
      simp [chain, chainAll_append, chainAll_singleton]
    rw [← append_assoc, hc]
    exact ih.step hempty hl tc

lemma Told.frames {d : Decoders} (ix : ℤ)
    (hs : s.mapper = some ns ∧ s.finished = false ∧ s.localToolCalls = []) (fs : List Frame) :
    Told ns ix ((frameDeltas d fs).flatMap ChatDelta.toolCalls) (chainAll (feed d) fs s) := by
  refine (frames_induction (P := fun fed r => r.2.finished = false ∧
    Told ns ix (fed.flatMap ChatDelta.toolCalls) r) ?_ ?_ ?_ ?_ fs).2
  · exact fun fed r h => h.1
  · intro fed r evs s' h hk
    exact ⟨hk.finished.trans h.1, h.2.alike evs hk.mapper hk.calls⟩
  · intro fed r delta h
    obtain ⟨evs, s', hd, hm, hcl⟩ := feedDelta_calls delta r.2
    refine ⟨(feedDelta_running delta r.2).2.trans h.1, ?_⟩
    have hc : chain r (feedDelta delta) =
        chain (r.1 ++ evs, s') (chainAll toolCall delta.toolCalls) := by
      rw [chain, hd]
      simp [chain]
    rw [flatMap_append, flatMap_singleton, hc]
    exact (h.2.alike evs hm hcl).steps hempty hl delta.toolCalls
  · refine ⟨hs.2.1, hs.1, ?_, fun _ t ht => ?_⟩
    · dsimp only
      rw [hs.2.2]
      exact ⟨nodup_nil, by simp, by simp⟩
    · rw [hs.2.2] at ht
      cases ht

end

/-- The calls under a name are returned with a pair, in every stream: the call is closed as an
item with this pair, and was announced as such, if there is a name. -/
def StreamedAs (names : ToolNames) (name : String) (pair : String × String) : Prop :=
  ∀ d model usage latestUsage now frames index,
    let calls := (frameDeltas d frames).flatMap ChatDelta.toolCalls
    let events := answer d frames now latestUsage
      { model := model, mapper := some names, usage := usage }
    (∃ tc ∈ calls, tc.index = index) → callName index calls = name →
    ∃ respID i item, .outputItemDone respID i item ∈ events ∧ item.tool? = some pair ∧
      (∀ tc, calls.find? (fun tc => tc.index = index) = some tc → tc.id ≠ "" →
        item.callID? = some tc.id) ∧
      (pair.2 ≠ "" → ∃ respID' announced, .outputItemAdded respID' i announced ∈ events ∧
        announced.tool? = some pair ∧ announced.callID? = item.callID?)

lemma isChunk_of_frameDelta {d : Decoders} {data : Bytes} {delta : ChatDelta}
    (h : frameDelta d data = some delta) : IsChunk d data := by
  unfold frameDelta at h
  split_ifs at h with hd
  obtain ⟨chunk, hc, -⟩ := Option.bind_eq_some_iff.mp h
  exact ⟨hd, by rw [hc]; rfl⟩

lemma closeToolCall_tool (d : Decoders) (respID : String) (t : ChatResponsesToolCall) :
    (closeToolCall d respID t).2.tool? = some (t.toolNamespace, t.name) ∧
      (closeToolCall d respID t).2.callID? = some t.callID := by
  unfold closeToolCall
  split_ifs <;> exact toolItem_tool t _ _

lemma streamedAs_restore {ns : ToolNames} (hempty : ns.restore "" = ("", ""))
    (hpl : ns.Plain) {name : String} (hn : name ≠ "" → (ns.restore name).2 ≠ "") :
    StreamedAs ns name (ns.restore name) := by
  intro d model usage latestUsage now fs ix calls evs hs hcn
  obtain ⟨tc, htc, hin⟩ := hs
  have htl := Told.frames hempty hpl (d := d) ix
    (s := { model := model, mapper := some ns, usage := usage }) ⟨rfl, rfl, rfl⟩ fs
  have hg : Good ns (calls.filter fun tc => tc.index = ix) := by
    rw [Good, ← callName_eq, hcn]
    exact hn
  obtain ⟨t, ht⟩ := Option.ne_none_iff_exists'.mp fun hno =>
    (filter_eq_nil_iff.mp (htl.entries.absent ix hno) tc htc) (by simpa using hin)
  have hh := htl.entries.held ix t ht
  have ha := htl.announced hg t ht
  have hc : ∃ frame ∈ fs, IsChunk d frame.2 := by
    obtain ⟨delta, hd, -⟩ := mem_flatMap.mp htc
    obtain ⟨frame, hf, hrd⟩ := mem_filterMap.mp hd
    exact ⟨frame, hf, isChunk_of_frameDelta hrd⟩
  have hrn := frames_started (s := { model := model, mapper := some ns, usage := usage }) rfl hc
  have hp : (t.toolNamespace, t.name) = ns.restore name := by
    rw [hh.pair hempty hpl hg, ← callName_eq, hcn]
  generalize hr : chainAll (feed d) fs
    { model := model, mapper := some ns, usage := usage } = r at ht ha hrn
  obtain ⟨closed, hfi⟩ := finish_events hrn d now latestUsage
  have he : evs = r.1.map event ++
      ((closing d r.2).1.map event ++ [.done closed, .completed closed]) := by
    rw [← hfi, ← map_append, ← hr]
    rfl
  obtain ⟨ho, hci⟩ := closeToolCall_tool d r.2.respID t
  refine ⟨r.2.respID, t.outputIndex, (closeToolCall d r.2.respID t).2, ?_, ?_, ?_, ?_⟩
  · rw [he]
    exact mem_append_right _ (mem_append_left _ (closing_done (mem_of_lookup ht)))
  · rw [ho, hp]
  · intro fst hfr hi
    rw [hci, hh.callID_eq (head?_filter.trans hfr) hi]
  · intro hm
    have hne : t.name ≠ "" := by
      rw [← hp] at hm
      exact hm
    obtain ⟨respID, item, hv, hi, hii⟩ := ha.shown (ha.named.mpr hne)
    refine ⟨respID, item, ?_, ?_, ?_⟩
    · rw [he]
      exact mem_append_left _ hv
    · rw [hi, hp]
    · rw [hii, hci]

end ChatToResponsesStream

/-- The calls under a name are returned with a pair, in every answer that is not streamed. -/
def CompletedAs (names : ToolNames) (name : String) (pair : String × String) : Prop :=
  ∀ d decode now body model completion message others, decode body = .ok completion →
    completion.choices = message :: others →
    ∃ result, chatCompletionToResponses d decode now body model (some names) = .ok result ∧
      List.Forall₂ (fun tc item => item.callID? = some tc.id ∧
          (tc.name = name → item.tool? = some pair))
        message.toolCalls (result.body.output.filter fun item => item.tool?.isSome)

lemma messageOutput_tools (d : Decoders) (mapper : Option ToolNames) (id : String)
    (msg : CompletionMessage) :
    (messageOutput d mapper id msg).filter (fun item => item.tool?.isSome) =
      msg.toolCalls.map (completionToolItem d mapper) := by
  have ht : ∀ calls : List CompletionToolCall,
      (calls.map (completionToolItem d mapper)).filter (fun item => item.tool?.isSome) =
        calls.map (completionToolItem d mapper) := by
    intro calls
    rw [filter_eq_self]
    intro item hi
    obtain ⟨tc, -, rfl⟩ := mem_map.mp hi
    rw [(completionToolItem_tool d mapper tc).1]
    rfl
  unfold messageOutput
  dsimp only
  generalize (if msg.reasoningContent ≠ "" then msg.reasoningContent
    else msg.reasoning) = reasoningText
  rw [filter_append]
  have hr : (if reasoningText = "" then []
      else [OutputItem.reasoning (chatResponsesID id "rs_") [reasoningText] "" "completed"]).filter
      (fun item => item.tool?.isSome) = [] := by
    split_ifs <;> rfl
  rw [hr, nil_append]
  split_ifs with hc
  · rw [hc]
    rfl
  · exact ht _

lemma completedAs_iff {ns : ToolNames} {name : String} {pair : String × String} :
    CompletedAs ns name pair ↔ ns.restore name = pair := by
  constructor
  · intro h
    -- an answer with one call
    let completion : ChatCompletion := { choices := [{ toolCalls := [{ name := name }] }] }
    let d := ChatToResponsesStream.decodesTo {}
    let dec : Bytes → Except String ChatCompletion := fun _ => .ok completion
    have hd : dec [] = .ok completion := rfl
    have hc : completion.choices = [{ toolCalls := [{ name := name }] }] := rfl
    obtain ⟨res, hr, hi⟩ := h d dec 0 [] "" completion _ _ hd hc
    obtain ⟨res', hr', ho⟩ := chatCompletionToResponses_output d 0 "" (some ns) hd hc
    obtain rfl := Except.ok.inj (hr.symm.trans hr')
    rw [ho, messageOutput_tools] at hi
    obtain ⟨-, ht⟩ := (forall₂_cons.mp hi).1
    have hs := (completionToolItem_tool d (some ns) { name := name }).1
    exact Option.some.inj (hs.symm.trans (ht rfl))
  · rintro rfl d dec now body model completion msg os hd hc
    obtain ⟨res, hr, ho⟩ := chatCompletionToResponses_output d now model (some ns) hd hc
    refine ⟨res, hr, ?_⟩
    rw [ho, messageOutput_tools, forall₂_map_right_iff, forall₂_same]
    intro tc _
    obtain ⟨ht, hci⟩ := completionToolItem_tool d (some ns) tc
    refine ⟨hci, ?_⟩
    rintro rfl
    exact ht

/-- The name under which the tool with a pair is sent leads back to it. -/
def Recoverable (marshal : Json → String) (payload : Fields) (pair : String × String) : Prop :=
  if pair.1 = "" then
    SafeName pair.2 ∧ pair.2 ∉ (responsesRequestToChat marshal payload).2.used
  else pair.2 ≠ "" ∧ First (registeredPairs marshal payload) pair

namespace ToolNameMapper
variable {ps : List (String × String)} {m : ToolNameMapper}

lemma First.unique {pair pair' : String × String} (h : First ps pair) (h' : First ps pair')
    (hk : key pair = key pair') : pair = pair' := by
  unfold First at h h'
  rw [hk, h', Option.some.injEq] at h
  exact h.symm

lemma Registered.restore_empty (h : Registered ps m) (hs : ∀ pair ∈ ps, pair.1 ≠ "") :
    m.restore "" = ("", "") := by
  unfold restore
  cases hl : m.reverse.lookup "" with
  | none => rfl
  | some pair =>
    exact absurd rfl (h.named "" pair hl (hs pair (h.first_of_reverse hl).mem))

lemma Registered.sent_iff (h : Registered ps m) (hp : ∀ pair ∈ ps, pair.1 ≠ "")
    {pair : String × String} {name : String} (hn : m.Sends pair name) :
    (SafeName name ∧ m.restore name = pair) ↔ if pair.1 = "" then SafeName pair.2 ∧ pair.2 ∉ m.used
      else pair.2 ≠ "" ∧ First ps pair := by
  obtain ⟨space, ln⟩ := pair
  unfold Sends at hn
  dsimp only at hn ⊢
  by_cases hs : space = ""
  · subst hs
    rw [if_pos (.inl rfl)] at hn
    subst hn
    rw [if_pos rfl]
    refine and_congr_right fun hf => ?_
    rw [h.used, not_not, restore]
    cases hl : m.reverse.lookup name with
    | none => exact iff_of_true (split_of_safeName hf) rfl
    | some found =>
      refine iff_of_false (fun hfn => ?_) (Option.some_ne_none _)
      exact hp found (h.first_of_reverse hl).mem (congrArg Prod.fst hfn)
  · rw [if_neg hs]
    by_cases hempty : ln = ""
    · subst hempty
      rw [if_pos (.inr rfl)] at hn
      subst hn
      refine iff_of_false (fun hb => ?_) fun hm => hm.1 rfl
      rw [h.restore_empty hp] at hb
      exact hs (congrArg Prod.fst hb.2).symm
    · rw [if_neg (not_or.mpr ⟨hs, hempty⟩)] at hn
      obtain ⟨found, hv, hk, hr⟩ := h.entry _ _ hn
      have hf : SafeName name :=
        h.safe name ((h.used name).mpr (by rw [hv]; exact Option.some_ne_none _))
      have hrs : m.restore name = found := by rw [restore, hv]; rfl
      rw [hrs]
      constructor
      · rintro ⟨-, rfl⟩
        exact ⟨hempty, hr⟩
      · rintro ⟨-, ha⟩
        exact ⟨hf, hr.unique ha hk⟩

/-- The tools of a mapper that has given them their names. -/
lemma Registered.returned_iff (h : Registered ps m) (hs : ∀ pair ∈ ps, pair.1 ≠ "")
    {stdTools tools : List Fields}
    (hsn : List.Forall₂ (fun std tool => m.Sends (toolPair std) (sentName tool)) stdTools
      tools)
    (hd : (stdTools.map toolPair).Nodup) :
    ((tools.map sentName).Nodup ∧ (∀ tool ∈ tools, SafeName (sentName tool)) ∧
        List.Forall₂ (fun std tool =>
            ChatToResponsesStream.StreamedAs m.names (sentName tool) (toolPair std) ∧
              CompletedAs m.names (sentName tool) (toolPair std))
          stdTools tools) ↔
      ∀ std ∈ stdTools, if (toolPair std).1 = "" then
          SafeName (toolPair std).2 ∧ (toolPair std).2 ∉ m.used
        else (toolPair std).2 ≠ "" ∧ First ps (toolPair std) := by
  obtain ⟨hl, hz⟩ := forall₂_iff_zip.mp hsn
  constructor
  · rintro ⟨-, hf, hrt⟩ std ht
    rw [← map_fst_zip hl.le] at ht
    obtain ⟨⟨_, tool⟩, hm, rfl⟩ := mem_map.mp ht
    obtain ⟨-, hcm⟩ := forall₂_zip hrt hm
    exact (h.sent_iff hs (hz hm)).mp ⟨hf tool (of_mem_zip hm).2, completedAs_iff.mp hcm⟩
  · intro hc
    have hg : List.Forall₂ (fun std tool => SafeName (sentName tool) ∧
        m.restore (sentName tool) = toolPair std) stdTools tools := by
      refine forall₂_iff_zip.mpr ⟨hl, fun {std tool} hm => ?_⟩
      exact (h.sent_iff hs (hz hm)).mpr (hc std (of_mem_zip hm).1)
    refine ⟨?_, ?_, ?_⟩
    · -- the pairs that the names are restored to are different
      have hpr : stdTools.map toolPair = (tools.map sentName).map m.restore := by
        rw [map_map, ← forall₂_eq_eq_eq, forall₂_map_left_iff, forall₂_map_right_iff]
        exact hg.imp fun _ _ h => h.2.symm
      rw [hpr] at hd
      exact hd.of_map
    · intro tool ho
      rw [← map_snd_zip hl.ge] at ho
      obtain ⟨⟨std, _⟩, hm, rfl⟩ := mem_map.mp ho
      exact (forall₂_zip hg hm).1
    · refine forall₂_iff_zip.mpr ⟨hl, fun {std tool} hm => ?_⟩
      have hr := (forall₂_zip hg hm).2
      refine ⟨?_, completedAs_iff.mpr hr⟩
      have hnm : sentName tool ≠ "" → (m.restore (sentName tool)).2 ≠ "" := by
        intro hn
        by_cases hp : (m.restore (sentName tool)).1 = ""
        · have hsm : (m.restore (sentName tool)).2 = sentName tool := h.plain hs (sentName tool) hp
          rw [hsm]
          exact hn
        · have ha := hc std (of_mem_zip hm).1
          rw [← hr, if_neg hp] at ha
          exact ha.1
      rw [← hr]
      exact ChatToResponsesStream.streamedAs_restore (h.restore_empty hs) (h.plain hs) hnm

end ToolNameMapper

/-- Tools with different pairs are sent under different safe names, and their calls come back
with their own pairs, exactly if the name of every tool leads back to it. -/
theorem tool_round_trip_iff (marshal : Json → String) (payload : Fields)
    (hdistinct : ((requestTools payload).map toolPair).Nodup) :
    let chat := responsesRequestToChat marshal payload
    ((chat.1.tools.map sentName).Nodup ∧ (∀ tool ∈ chat.1.tools, SafeName (sentName tool)) ∧
        List.Forall₂ (fun stdTool tool =>
            ChatToResponsesStream.StreamedAs chat.2.names (sentName tool) (toolPair stdTool) ∧
              CompletedAs chat.2.names (sentName tool) (toolPair stdTool))
          (requestTools payload) chat.1.tools) ↔
      ∀ stdTool ∈ requestTools payload, Recoverable marshal payload (toolPair stdTool) := by
  obtain ⟨hr, hs⟩ := request_registered marshal payload
  exact hr.returned_iff (fun pair => space_of_mem_registeredPairs) hs hdistinct

def twoTools (name space localName : String) : Fields :=
  [("tools", .array
    [.object [("type", .str "function"), ("name", .str name)],
      .object [("type", .str "namespace"), ("name", .str space),
        ("tools", .array [.object [("type", .str "function"), ("name", .str localName)]])]])]

def sentTools (name space localName : String) : ChatRequest × ToolNameMapper :=
  responsesRequestToChat (fun _ => "") (twoTools name space localName)

/-- The tools `echo` and `math.add` come back as they were. -/
theorem echo_and_add_round_trip :
    (sentTools "echo" "math" "add").1.tools.map sentName = ["echo", "math_add"] ∧
      List.Forall₂ (fun stdTool tool =>
          ChatToResponsesStream.StreamedAs (sentTools "echo" "math" "add").2.names (sentName tool)
              (toolPair stdTool) ∧
            CompletedAs (sentTools "echo" "math" "add").2.names (sentName tool) (toolPair stdTool))
        (requestTools (twoTools "echo" "math" "add")) (sentTools "echo" "math" "add").1.tools :=
  ⟨by decide +kernel,
    ((tool_round_trip_iff (fun _ => "") (twoTools "echo" "math" "add") (by decide +kernel)).mpr (by
      unfold Recoverable First
      decide +kernel)).2.2⟩

/-- The tools `a_b` and `b` in the namespace `a` have different pairs and are both sent as
`a_b`; a call of either comes back as the one in the namespace. -/
theorem a_b_sent_twice :
    (requestTools (twoTools "a_b" "a" "b")).map toolPair = [("", "a_b"), ("a", "b")] ∧
      (sentTools "a_b" "a" "b").1.tools.map sentName = ["a_b", "a_b"] ∧
      (sentTools "a_b" "a" "b").2.restore "a_b" = ("a", "b") ∧
      ¬CompletedAs (sentTools "a_b" "a" "b").2.names "a_b" ("", "a_b") := by
  refine ⟨by decide +kernel, by decide +kernel, by decide +kernel, fun hc => ?_⟩
  exact absurd (completedAs_iff.mp hc) (by decide +kernel)

end TokenliveGateway
