import TokenliveGateway.ToolRounds

/-!
# The tools of a request

`ResponsesRequestToChat` registers the namespaced calls of the history and then the
namespaced tools with one mapper. Every tool is sent under the name that its pair has
there, or under its own name if it has no namespace.
-/
namespace TokenliveGateway
open KeyedEntries ToolNameMapper List Fields

def historyPairs (ids : List String) (items : List HistoryItem) : List (String × String) :=
  items.filterMap fun
    | .call _ callID name toolNamespace _ =>
      if callID ∈ ids ∧ toolNamespace ≠ "" then some (toolNamespace, name) else none
    | _ => none

/-- Namespace and name of a standard tool. -/
def toolPair (stdTool : Fields) : String × String :=
  (stdTool.str "namespace", stdTool.str "name")

def toolPairs (stdTools : List Fields) : List (String × String) :=
  (stdTools.map toolPair).filter fun pair => pair.1 ≠ "" ∧ pair.2 ≠ ""

def sentName (tool : Fields) : String :=
  ((tool.object? "function").map fun function => function.str "name").getD ""

namespace ToolNameMapper
variable {m : ToolNameMapper} {ps : List (String × String)}

variable (m) in
/-- The name under which the tool with a pair is sent. -/
def Sends (pair : String × String) (name : String) : Prop :=
  if pair.1 = "" ∨ pair.2 = "" then name = pair.2 else m.forward.lookup (key pair) = some name

variable {stdTool : Fields}

lemma toolPairs_of_plain (hp : (toolPair stdTool).1 = "" ∨ (toolPair stdTool).2 = "") :
    toolPairs [stdTool] = [] := by
  rcases hp with he | he <;> simp [toolPairs, he]

lemma toolPairs_of_named (ha : ¬((toolPair stdTool).1 = "" ∨ (toolPair stdTool).2 = "")) :
    toolPairs [stdTool] = [toolPair stdTool] := by
  obtain ⟨hs, hn⟩ := not_or.mp ha
  simp [toolPairs, hs, hn]

lemma Registered.sanitizeTool (h : Registered ps m) (inner : Fields) :
    let sanitized := TokenliveGateway.sanitizeTool inner m
    Registered (ps ++ toolPairs [inner]) sanitized.2 ∧
      sanitized.2.Sends (toolPair inner) (sanitized.1.str "name") ∧
      ∀ k name, m.forward.lookup k = some name → sanitized.2.forward.lookup k = some name := by
  unfold TokenliveGateway.sanitizeTool Sends
  dsimp only
  by_cases hs : inner.str "namespace" = ""
  · rw [if_pos hs, toolPairs_of_plain (.inl hs), append_nil, if_pos (.inl hs)]
    exact ⟨h, rfl, fun _ _ hk => hk⟩
  · rw [if_neg hs]
    by_cases he : inner.str "name" = ""
    · rw [if_pos he, toolPairs_of_plain (.inr he), append_nil, if_pos (.inr he)]
      exact ⟨h, str_delete_of_ne _ (by decide), fun _ _ hk => hk⟩
    · have hn : ¬((toolPair inner).1 = "" ∨ (toolPair inner).2 = "") := not_or.mpr ⟨hs, he⟩
      obtain ⟨hx, hl⟩ := h.register (toolPair inner)
      rw [if_neg he, toolPairs_of_named hn, if_neg hn]
      refine ⟨hx, ?_, fun k name hk => forward_mono hk _⟩
      exact hl

lemma Registered.wrap (h : Registered ps m) (ht : stdTool.str "type" = "function") :
    let wrapped := wrapFlatToolToNestedOpenAI stdTool m
    Registered (ps ++ toolPairs [stdTool]) wrapped.2 ∧
      wrapped.2.Sends (toolPair stdTool) (sentName wrapped.1) ∧
      ∀ k name, m.forward.lookup k = some name → wrapped.2.forward.lookup k = some name := by
  have hp : toolPair (stdTool.delete "type") = toolPair stdTool := by
    rw [toolPair, str_delete_of_ne _ (by decide), str_delete_of_ne _ (by decide)]
    rfl
  have hpr : toolPairs [stdTool.delete "type"] = toolPairs [stdTool] := by
    rw [toolPairs, map_singleton, hp]
    rfl
  have hf : (if stdTool.str "type" = "" then "function" else stdTool.str "type") = "function" := by
    rw [ht]
    rfl
  unfold wrapFlatToolToNestedOpenAI
  dsimp only
  rw [hf]
  -- marking the tool as custom leaves the names alone
  have hm : ∀ marked : ToolNameMapper, Registered ps marked → marked.forward = m.forward →
      let sanitized := TokenliveGateway.sanitizeTool (stdTool.delete "type") marked
      Registered (ps ++ toolPairs [stdTool]) sanitized.2 ∧
        sanitized.2.Sends (toolPair stdTool) (sanitized.1.str "name") ∧
        ∀ k name, m.forward.lookup k = some name → sanitized.2.forward.lookup k = some name := by
    intro marked hg hr
    have hs := hg.sanitizeTool (stdTool.delete "type")
    rwa [hp, hpr, hr] at hs
  split_ifs
  · exact hm _ (h.custom _) rfl
  · exact hm _ h rfl

lemma Registered.wrapTools (h : Registered ps m) {stdTools : List Fields}
    (ht : ∀ stdTool ∈ stdTools, stdTool.str "type" = "function") :
    let wrapped := TokenliveGateway.wrapTools stdTools m
    Registered (ps ++ toolPairs stdTools) wrapped.2 ∧
      List.Forall₂ (fun stdTool tool => wrapped.2.Sends (toolPair stdTool) (sentName tool)) stdTools
        wrapped.1 := by
  induction stdTools using reverseRecOn with
  | nil => simpa [TokenliveGateway.wrapTools, toolPairs] using h
  | append_singleton stdTools stdTool ih =>
    obtain ⟨hb, he⟩ := ih fun tool ho => ht tool (mem_append_left _ ho)
    obtain ⟨ha, hlast, hm⟩ := hb.wrap (ht stdTool (by simp))
    have hp : toolPairs (stdTools ++ [stdTool]) = toolPairs stdTools ++ toolPairs [stdTool] := by
      simp [toolPairs]
    unfold TokenliveGateway.wrapTools at hb he ha hlast hm ⊢
    rw [foldl_append, foldl_cons, foldl_nil, hp, ← append_assoc]
    refine ⟨ha, rel_append (he.imp ?_) (.cons hlast .nil)⟩
    intro std tool hs
    unfold Sends at hs ⊢
    split_ifs at hs ⊢ with hl
    · exact hs
    · exact hm _ _ hs

end ToolNameMapper

namespace Assembly
variable {h : History} {items part : List HistoryItem} {ps : List (String × String)}

lemma mapper_flush (s : Assembly) : (flushPendingToolCalls h s).mapper = s.mapper := by
  unfold flushPendingToolCalls
  dsimp only
  split_ifs <;> rfl

variable (role text name toolCallID : String)

lemma mapper_sendMessage (toolCalls : Option Json)
    (s : Assembly) : (sendMessage h role text name toolCallID toolCalls s).mapper = s.mapper := by
  unfold sendMessage
  dsimp only
  split_ifs <;> rfl

lemma mapper_message (toolCalls : Option Json) (s : Assembly) :
    (stepItem h s (.message role text name toolCallID toolCalls)).mapper = s.mapper := by
  dsimp only [stepItem]
  split_ifs
  · rw [mapper_sendMessage, mapper_flush]
  all_goals rfl

lemma registered_addCall (ho : h.Of items) {s : Assembly} (hs : Registered ps s.mapper)
    (custom : Bool) (callID name ns args : String) :
    Registered
      (ps ++ historyPairs (outputIDs items) [.call custom callID name ns args])
      (addCall h custom callID name ns args s).mapper := by
  unfold addCall
  by_cases hn : h.toolOutputs.lookup callID = none
  · have hi : callID ∉ outputIDs items := fun hi => (ho.keys callID).mpr hi hn
    have hp : historyPairs (outputIDs items)
        [.call custom callID name ns args] = [] := by
      simp [historyPairs, hi]
    rw [if_pos hn, hp, append_nil]
    exact hs
  · have hi : callID ∈ outputIDs items := (ho.keys callID).mp hn
    by_cases hsp : ns = ""
    · have hp : historyPairs (outputIDs items)
          [.call custom callID name ns args] = [] := by
        simp [historyPairs, hsp]
      rw [if_pos hsp, hp, append_nil]
      split_ifs
      · exact hs.custom _
      · exact hs
    · have hp : historyPairs (outputIDs items)
          [.call custom callID name ns args] = [(ns, name)] := by
        simp [historyPairs, hi, hsp]
      have hx := (hs.register (ns, name)).1
      rw [if_neg hsp, hp]
      split_ifs
      · exact hx.custom _
      · exact hx

lemma registered_stepItem (ho : h.Of items) {s : Assembly} (hs : Registered ps s.mapper)
    (item : HistoryItem) :
    Registered (ps ++ historyPairs (outputIDs items) [item]) (stepItem h s item).mapper := by
  cases item with
  | call custom callID name ns args =>
    exact registered_addCall ho hs custom callID name ns args
  | reasoning text =>
    have hm : (stepItem h s (.reasoning text)).mapper = s.mapper := by
      dsimp only [stepItem]
      split_ifs <;> rfl
    rw [hm]
    simpa [historyPairs] using hs
  | output callID text =>
    have hm : (stepItem h s (.output callID text)).mapper = s.mapper := by
      dsimp only [stepItem]
      split_ifs
      · exact mapper_flush s
      · rfl
    rw [hm]
    simpa [historyPairs] using hs
  | message role text name toolCallID toolCalls =>
    rw [mapper_message]
    simpa [historyPairs] using hs

lemma registered_assemble (ho : h.Of items) (st : List ChatMessage) (part : List HistoryItem) :
    Registered (historyPairs (outputIDs items) part)
      (assemble h { messages := st } part).mapper := by
  rw [assemble, mapper_flush]
  induction part using reverseRecOn with
  | nil => exact registered_new
  | append_singleton part item ih =>
    have hp : historyPairs (outputIDs items) (part ++ [item]) =
        historyPairs (outputIDs items) part ++ historyPairs (outputIDs items) [item] :=
      filterMap_append
    rw [foldl_append, foldl_cons, foldl_nil, hp]
    exact registered_stepItem ho ih item

end Assembly

def requestTools (payload : Fields) : List Fields :=
  ((payload.array? "tools").getD []).flatMap standardTools

/-- The pairs that a request registers: those of its calls, and then those of its tools. -/
def registeredPairs (marshal : Json → String) (payload : Fields) : List (String × String) :=
  historyPairs (outputIDs (historyItems marshal payload)) (historyItems marshal payload) ++
    toolPairs (requestTools payload)

/-- Only pairs with a namespace are registered. -/
lemma space_of_mem_registeredPairs {marshal : Json → String} {pl : Fields}
    {pair : String × String} (h : pair ∈ registeredPairs marshal pl) : pair.1 ≠ "" := by
  rcases mem_append.mp h with h | h
  · obtain ⟨item, -, hi⟩ := mem_filterMap.mp h
    grind
  · obtain ⟨-, hn⟩ := mem_filter.mp h
    grind

lemma functionTool_type {tool stdTool : Fields} (h : functionTool tool = some stdTool) :
    stdTool.str "type" = "function" := by
  obtain ⟨-, ht⟩ := Option.filter_eq_some_iff.mp h
  simpa using ht

lemma standardTools_type {tool : Json} {stdTool : Fields} (h : stdTool ∈ standardTools tool) :
    stdTool.str "type" = "function" := by
  cases tool with
  | object toolMap =>
    dsimp only [standardTools] at h
    by_cases hn : str toolMap "type" = "namespace"
    · rw [if_pos hn] at h
      obtain ⟨sub, -, hs⟩ := mem_filterMap.mp h
      cases sub with
      | object subToolMap =>
        obtain ⟨found, hf, rfl⟩ := Option.map_eq_some_iff.mp hs
        have ht := functionTool_type hf
        split_ifs
        · exact ht
        · rw [str, lookup_put_of_ne _ _ (by decide)]
          exact ht
      | null | bool _ | number _ | str _ | array _ => cases hs
    · rw [if_neg hn] at h
      exact functionTool_type (Option.mem_toList.mp h)
  | null | bool _ | number _ | str _ | array _ => cases h

lemma lookup_chatFields_tools (pl : Fields) :
    (chatFields pl).lookup "tools" = pl.lookup "tools" := by
  have hd : ∀ (keys : List String) (m : Fields), "tools" ∉ keys →
      (keys.foldl delete m).lookup "tools" = m.lookup "tools" := by
    intro keys
    induction keys with
    | nil => exact fun _ _ => rfl
    | cons key keys ih =>
      intro m hy
      obtain ⟨hk, hr⟩ := not_or.mp (fun hm => hy (mem_cons.mpr hm))
      exact (ih _ hr).trans (lookup_delete_of_ne m hk)
  have hs : (((pl.delete "messages").delete "input").delete "instructions").lookup
      "tools" = pl.lookup "tools" :=
    hd ["messages", "input", "instructions"] pl (by decide)
  unfold chatFields
  dsimp only
  split
  · rw [lookup_delete_of_ne _ (by decide), lookup_put_of_ne _ _ (by decide),
      hd _ _ (by decide)]
    split_ifs
    · rw [lookup_put_of_ne _ _ (by decide), hs]
    · exact hs
  · rw [hd _ _ (by decide)]
    split_ifs
    · rw [lookup_put_of_ne _ _ (by decide), hs]
    · exact hs

/-- What a request has registered, and the names under which its tools are sent. -/
lemma request_registered (marshal : Json → String) (pl : Fields) :
    let translated := responsesRequestToChat marshal pl
    Registered (registeredPairs marshal pl) translated.2 ∧
      List.Forall₂ (fun stdTool tool => translated.2.Sends (toolPair stdTool) (sentName tool))
        (requestTools pl) translated.1.tools := by
  have ha : Registered
      (historyPairs (outputIDs (historyItems marshal pl)) (historyItems marshal pl))
      (requestAssembly marshal pl).mapper := by
    have has := Assembly.registered_assemble
      (History.ofItems_of (hasReasoningEffort (responsesReasoningEffort pl))
        (historyItems marshal pl))
      (instructionMessages pl) (historyItems marshal pl)
    unfold requestAssembly
    cases hi : pl.lookup "input" with
    | none => exact has
    | some input =>
      cases input with
      | str text =>
        have ht : historyItems marshal pl = [] := by
          simp [historyItems, array?, hi]
        rw [ht]
        dsimp only
        split_ifs <;> exact registered_new
      | null | bool _ | number _ | array _ | object _ => exact has
  have hl : (chatFields pl).array? "tools" = pl.array? "tools" := by
    rw [array?, lookup_chatFields_tools, array?]
  unfold responsesRequestToChat registeredPairs requestTools
  dsimp only
  rw [hl]
  cases pl.array? "tools" with
  | none => exact ⟨by simpa [toolPairs] using ha, .nil⟩
  | some tools =>
    have hy : ∀ stdTool ∈ tools.flatMap standardTools, stdTool.str "type" = "function" := by
      intro stdTool hm
      obtain ⟨tool, -, hs⟩ := mem_flatMap.mp hm
      exact standardTools_type hs
    exact ha.wrapTools hy

end TokenliveGateway
