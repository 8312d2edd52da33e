import TokenliveGateway.ChatCompletion
import TokenliveGateway.ToolNameMapper

/-!
# Tool calls of a translated stream

`ChatToResponsesStream` keeps one entry for each tool call of the upstream. The first delta
of a call that has a name settles what the client is told about it: later deltas only add
to its arguments.
-/
namespace TokenliveGateway
open KeyedEntries List

/-- A name that is restored without a namespace is restored to itself. -/
def ToolNames.Plain (names : ToolNames) : Prop :=
  ∀ name, (names.restore name).1 = "" → (names.restore name).2 = name

lemma splitChatToolName_plain {name : String} (h : (splitChatToolName name).1 = "") :
    (splitChatToolName name).2 = name := by
  unfold splitChatToolName at h ⊢
  dsimp only at h ⊢
  split_ifs at h ⊢ with hp
  · rfl
  · have hb := congrArg String.toList h
    rw [String.toList_ofList] at hb
    exact absurd (reverse_eq_nil_iff.mp hb) (not_or.mp hp).2

lemma splitChatToolName_named {name : String} (hn : name ≠ "") :
    (splitChatToolName name).2 ≠ "" := by
  unfold splitChatToolName
  dsimp only
  split_ifs with hp
  · exact hn
  · intro he
    have ha := congrArg String.toList he
    rw [String.toList_ofList] at ha
    exact (not_or.mp hp).1 (reverse_eq_nil_iff.mp ha)

namespace ToolNameMapper
variable {ps : List (String × String)} {m : ToolNameMapper}

/-- A mapper that has registered only pairs with a namespace is plain. -/
lemma Registered.plain (h : Registered ps m) (hp : ∀ pair ∈ ps, pair.1 ≠ "") :
    m.names.Plain := by
  intro name hs
  dsimp only [names, restore] at hs ⊢
  cases hl : m.reverse.lookup name with
  | none =>
    rw [hl] at hs
    exact splitChatToolName_plain hs
  | some pair =>
    rw [hl] at hs
    exact absurd hs (hp pair (h.first_of_reverse hl).mem)

/-- No name is restored to an empty one, if no pair that was registered first has one. -/
lemma Registered.restore_named (h : Registered ps m)
    (hm : ∀ pair, First ps pair → pair.2 ≠ "") {name : String} (hn : name ≠ "") :
    (m.restore name).2 ≠ "" := by
  unfold restore
  cases hl : m.reverse.lookup name with
  | none => exact splitChatToolName_named hn
  | some pair => exact hm pair (h.first_of_reverse hl)

/-- The first pair under a key is found again by its name. -/
lemma Registered.restore_first (h : Registered ps m) {pair : String × String}
    (hr : First ps pair) :
    ∃ name, m.reverse.lookup name = some pair ∧ m.restore name = pair := by
  obtain ⟨name, ha⟩ := Option.ne_none_iff_exists'.mp (h.keys pair hr.mem)
  obtain ⟨found, hn, hk, hf⟩ := h.entry _ _ ha
  unfold First at hr hf
  rw [hk, hr, Option.some.injEq] at hf
  subst hf
  exact ⟨name, hn, by rw [restore, hn]; rfl⟩

end ToolNameMapper

namespace ChatToResponsesStream

section
variable {index index' : ℤ} {t t' : ChatResponsesToolCall}
  {cs : List (ℤ × ChatResponsesToolCall)}

@[simp] lemma lookup_putToolCall_self : (putToolCall index t cs).lookup index = some t := by
  simp [putToolCall]

lemma lookup_putToolCall_of_ne (h : index' ≠ index) :
    (putToolCall index t cs).lookup index' = cs.lookup index' := by
  rw [putToolCall, lookup_cons_of_ne h]
  exact lookup_filter_of_ne h

lemma lookup_putToolCall_ne_none (h : cs.lookup index' ≠ none ∨ index' = index) :
    (putToolCall index t cs).lookup index' ≠ none := by
  by_cases hi : index' = index
  · rw [hi, lookup_putToolCall_self]
    exact Option.some_ne_none _
  · rw [lookup_putToolCall_of_ne hi]
    exact h.resolve_right hi

lemma nodup_putToolCall (h : (cs.map Prod.fst).Nodup) :
    ((putToolCall index t cs).map Prod.fst).Nodup := by
  refine nodup_cons.mpr ⟨?_, h.sublist (filter_sublist.map _)⟩
  intro hm
  obtain ⟨entry, he, hi⟩ := mem_map.mp hm
  have hn : entry.1 ≠ index := by simpa using of_mem_filter he
  exact hn hi

lemma indexes_putToolCall (hk : (cs.map Prod.fst).Nodup)
    (h : cs.lookup index = some t) (hi : t'.outputIndex = t.outputIndex) :
    ((putToolCall index t' cs).map fun entry => entry.2.outputIndex).Perm
      (cs.map fun entry => entry.2.outputIndex) := by
  have hp := (perm_of_lookup hk h).map fun entry => entry.2.outputIndex
  rw [putToolCall, map_cons, hi]
  exact hp.symm

end

/-- Later deltas change nothing that is known of the call. -/
def Settled (mapper : Option ToolNames) (t : ChatResponsesToolCall) : Prop :=
  ∀ tc, identify mapper tc t = t

/-- What is known of a call does not depend on its arguments. -/
lemma identify_with (mp : Option ToolNames) (tc : ToolCallDelta) (t : ChatResponsesToolCall)
    (added : Bool) (arguments : String) :
    identify mp tc { t with added := added, arguments := arguments } =
      { identify mp tc t with added := added, arguments := arguments } := by
  unfold identify
  dsimp only
  split_ifs <;> rfl

variable {names : ToolNames} {t : ChatResponsesToolCall}

lemma Settled.with {mp : Option ToolNames} (ht : Settled mp t) (added : Bool)
    (arguments : String) : Settled mp { t with added := added, arguments := arguments } := by
  intro tc
  rw [identify_with, ht tc]

structure New (tc : ToolCallDelta) (t : ChatResponsesToolCall) : Prop where
  callID : t.callID ≠ ""
  name : t.name = tc.name
  toolNamespace : t.toolNamespace = ""

lemma settled_of_known (hc : t.callID ≠ "") (hn : t.name ≠ "")
    (hrs : t.toolNamespace = "" → names.restore t.name = ("", t.name))
    (hcs : t.name = "apply_patch" ∨ names.isCustom t.name = true →
      t.isCustom = true ∧ t.id = ensureCustomToolCallItemID t.callID) : Settled (some names) t := by
  intro tc
  have hg : ¬(tc.id ≠ "" ∧ t.callID = "") := fun h => hc h.2
  have hm : ¬(tc.name ≠ "" ∧ t.name = "") := fun h => hn h.2
  unfold identify
  dsimp only
  rw [if_neg hg, if_neg hm]
  have hr : (if t.toolNamespace = "" then
      { t with toolNamespace := (names.restore t.name).1, name := (names.restore t.name).2 }
      else t) = t := by
    split_ifs with hs
    · rw [hrs hs, ← hs]
    · rfl
  rw [hr]
  by_cases hk : t.name = "apply_patch" ∨ names.isCustom t.name = true
  · obtain ⟨hki, hi⟩ := hcs hk
    rw [if_pos (by simpa using hk), ← hki, ← hi]
  · rw [if_neg (by simpa using hk)]

variable {tc : ToolCallDelta}

lemma New.identify_eq (ht : New tc t) : identify (some names) tc t = let restored := { t with
        toolNamespace := (names.restore tc.name).1
        name := (names.restore tc.name).2 }
      if restored.name = "apply_patch" ∨ names.isCustom restored.name = true then
        { restored with isCustom := true, id := ensureCustomToolCallItemID restored.callID }
      else restored := by
  have hg : ¬(tc.id ≠ "" ∧ t.callID = "") := fun h => ht.callID h.2
  have hn : ¬(tc.name ≠ "" ∧ t.name = "") := fun h => h.1 (ht.name.symm.trans h.2)
  unfold identify
  dsimp only
  rw [if_neg hg, if_neg hn, if_pos ht.toolNamespace, ht.name]
  simp

/-- The first delta of a call settles it, if its name is not restored to an empty one. -/
lemma New.settled (hl : names.Plain) (ht : New tc t) (hn : (names.restore tc.name).2 ≠ "") :
    Settled (some names) (identify (some names) tc t) := by
  have hr : (names.restore tc.name).1 = "" →
      names.restore (names.restore tc.name).2 = ("", (names.restore tc.name).2) := by
    intro hp
    have hs := hl tc.name hp
    rw [hs]
    exact Prod.ext hp hs
  rw [ht.identify_eq]
  dsimp only
  split_ifs with hc
  · exact settled_of_known ht.callID hn hr fun _ => ⟨rfl, rfl⟩
  · exact settled_of_known ht.callID hn hr fun h => absurd h hc

/-- What the first delta of a call leaves as it was, and what it finds. -/
lemma New.identify_fields (ht : New tc t) (names : ToolNames) :
    let known := identify (some names) tc t
    (known.toolNamespace, known.name) = names.restore tc.name ∧ known.callID = t.callID ∧
      known.outputIndex = t.outputIndex ∧ known.added = t.added := by
  rw [ht.identify_eq]
  dsimp only
  split_ifs <;> exact ⟨rfl, rfl, rfl, rfl⟩

/-- The entry that is made for the first delta of a call. -/
def newToolCall (tc : ToolCallDelta) (s : ChatToResponsesStream) : ChatResponsesToolCall where
  id := ensureFunctionCallItemID
    (if tc.id = "" then "call_" ++ s.msgID ++ "_" ++ toString tc.index else tc.id)
  callID := if tc.id = "" then "call_" ++ s.msgID ++ "_" ++ toString tc.index else tc.id
  name := tc.name
  outputIndex := s.currentOutputIndex

lemma new_newToolCall (tc : ToolCallDelta) (s : ChatToResponsesStream) :
    New tc (newToolCall tc s) := by
  refine ⟨?_, rfl, rfl⟩
  unfold newToolCall
  split_ifs with hi
  · intro he
    have hl := congrArg String.length he
    have hc : "call_".length = 5 := rfl
    have hz : "".length = 0 := rfl
    simp only [String.length_append] at hl
    omega
  · exact hi

section
variable {names : ToolNames} {s : ChatToResponsesStream} {tc : ToolCallDelta}
  {t : ChatResponsesToolCall}

def argumentsEvents (respID : String) (t : ChatResponsesToolCall) (arguments : String) :
    List ResponsesStreamEvent :=
  if t.isCustom then []
  else [⟨.argumentsDelta respID t.id (some t.callID) t.outputIndex arguments, 0⟩]

lemma toolCall_known (hm : s.mapper = some names)
    (ht : s.localToolCalls.lookup tc.index = some t) (hs : Settled (some names) t)
    (ha : t.added = true) :
    toolCall tc s = (argumentsEvents s.respID t tc.arguments, { s with
          localToolCalls := putToolCall tc.index
            { t with added := true, arguments := t.arguments ++ tc.arguments }
            s.localToolCalls }) := by
  have hl : localToolCall tc s = (t, s) := by rw [localToolCall, ht]
  unfold toolCall argumentsEvents
  rw [hl]
  dsimp only
  rw [hm, hs tc, ha]
  simp

lemma toolCall_new (hm : s.mapper = some names) (hn : s.localToolCalls.lookup tc.index = none)
    (ht : t = identify (some names) tc (newToolCall tc s)) (ha : t.name ≠ "") :
    toolCall tc s = (⟨.outputItemAdded s.respID t.outputIndex (toolItem t "in_progress" ""), 0⟩ ::
          argumentsEvents s.respID t tc.arguments,
        { s with
          currentOutputIndex := s.currentOutputIndex + 1
          localToolCalls := putToolCall tc.index
            { t with added := true, arguments := t.arguments ++ tc.arguments }
            s.localToolCalls }) := by
  have hl : localToolCall tc s =
      (newToolCall tc s, { s with currentOutputIndex := s.currentOutputIndex + 1 }) := by
    rw [localToolCall, hn]
    rfl
  have hd : t.added = false := by
    rw [ht]
    exact ((new_newToolCall tc s).identify_fields names).2.2.2
  unfold toolCall argumentsEvents
  rw [hl]
  dsimp only
  rw [hm, ← ht, hd, if_pos ⟨ha, rfl⟩]
  simp [ha, respID]

/-- The entry of a call after one of its deltas. -/
def updated (mapper : Option ToolNames) (tc : ToolCallDelta) (t : ChatResponsesToolCall) :
    ChatResponsesToolCall :=
  let t := identify mapper tc t
  { t with
    added := t.added || t.name ≠ ""
    arguments := t.arguments ++ tc.arguments }

/-- The entry that a delta finds or makes. -/
def found (tc : ToolCallDelta) (s : ChatToResponsesStream) : ChatResponsesToolCall :=
  (s.localToolCalls.lookup tc.index).getD (newToolCall tc s)

variable (tc : ToolCallDelta) (s : ChatToResponsesStream)

lemma localToolCall_eq :
    ∃ next, localToolCall tc s = (found tc s, { s with currentOutputIndex := next }) := by
  unfold localToolCall found
  cases s.localToolCalls.lookup tc.index with
  | some t => exact ⟨s.currentOutputIndex, rfl⟩
  | none => exact ⟨s.currentOutputIndex + 1, rfl⟩

/-- What a delta leaves: the entry of its call, and nothing else changes but the next
index. -/
lemma toolCall_state : ∃ next, (toolCall tc s).2 = { s with
        currentOutputIndex := next
        localToolCalls := putToolCall tc.index (updated s.mapper tc (found tc s))
          s.localToolCalls } := by
  obtain ⟨next, hl⟩ := localToolCall_eq tc s
  refine ⟨next, ?_⟩
  unfold toolCall
  rw [hl]
  rfl

lemma toolCall_announces (hn : (identify s.mapper tc (found tc s)).name ≠ "")
    (ha : (identify s.mapper tc (found tc s)).added = false) :
    ∃ respID, ⟨.outputItemAdded respID (identify s.mapper tc (found tc s)).outputIndex
      (toolItem (identify s.mapper tc (found tc s)) "in_progress" ""), 0⟩ ∈ (toolCall tc s).1 := by
  obtain ⟨next, hl⟩ := localToolCall_eq tc s
  unfold toolCall
  rw [hl]
  dsimp only
  rw [if_pos ⟨hn, ha⟩]
  exact ⟨_, mem_append_left _ mem_cons_self⟩

lemma kind_eq (mp : Option ToolNames) (t : ChatResponsesToolCall) : let known :=
      if t.name = "apply_patch" ∨ (mp.map fun m => m.isCustom t.name) = some true then
        { t with isCustom := true, id := ensureCustomToolCallItemID t.callID }
      else t
    (known.toolNamespace, known.name) = (t.toolNamespace, t.name) ∧
      known.isCustom = (t.isCustom || isCustomCall mp known.name) ∧
      known.callID = t.callID ∧ known.outputIndex = t.outputIndex ∧ known.added = t.added ∧
      known.arguments = t.arguments := by
  by_cases hc : t.name = "apply_patch" ∨ (mp.map fun m => m.isCustom t.name) = some true
  · have hk : isCustomCall mp t.name = true := by simpa [isCustomCall] using hc
    rw [if_pos hc]
    exact ⟨rfl, by simp [hk], rfl, rfl, rfl, rfl⟩
  · have hk : isCustomCall mp t.name = false := by simpa [isCustomCall] using hc
    rw [if_neg hc]
    exact ⟨rfl, by simp [hk], rfl, rfl, rfl, rfl⟩

lemma identify_known (mp : Option ToolNames) (tc : ToolCallDelta)
    {t : ChatResponsesToolCall} (hc : t.callID ≠ "") :
    let known := identify mp tc t
    let name := if t.name = "" then tc.name else t.name
    (known.toolNamespace, known.name) =
        (if t.toolNamespace = "" then restoredName mp name else (t.toolNamespace, name)) ∧
      known.isCustom = (t.isCustom || isCustomCall mp known.name) ∧
      known.callID = t.callID ∧ known.outputIndex = t.outputIndex ∧ known.added = t.added ∧
      known.arguments = t.arguments := by
  have hg : ¬(tc.id ≠ "" ∧ t.callID = "") := fun h => hc h.2
  have hm : (if tc.name ≠ "" ∧ t.name = "" then { t with name := tc.name } else t) =
      { t with name := if t.name = "" then tc.name else t.name } := by
    by_cases he : t.name = ""
    · by_cases hn : tc.name = ""
      · rw [if_neg fun h => h.1 hn, if_pos he, hn, ← he]
      · rw [if_pos ⟨hn, he⟩, if_pos he]
    · rw [if_neg fun h => he h.2, if_neg he]
  unfold identify
  dsimp only
  rw [if_neg hg, hm]
  generalize (if t.name = "" then tc.name else t.name) = name
  by_cases hs : t.toolNamespace = ""
  · rw [if_pos hs, if_pos hs]
    exact kind_eq mp { t with
      toolNamespace := (restoredName mp name).1, name := (restoredName mp name).2 }
  · rw [if_neg hs, if_neg hs]
    exact kind_eq mp { t with name := name }

end

end ChatToResponsesStream
end TokenliveGateway
