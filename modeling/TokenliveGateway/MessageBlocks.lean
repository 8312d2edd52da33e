import TokenliveGateway.ItemStreams
import TokenliveGateway.StreamEvents

/-!
# The blocks of a Messages stream

Before its blocks are stopped, a Messages stream makes three moves: the message is
started, a block is opened under the next index for a source that has none, or a delta is
added to the block of its source. What such a stream looks like is read off its moves.
-/
namespace TokenliveGateway
open EventStreams ItemStreams LabelledRuns List MessagesEvent Function

def MessagesEvent.mark : MessagesEvent → Option (Mark ContentBlock BlockDelta Unit)
  | contentBlockStart i block => some (.opens i block)
  | contentBlockDelta i delta => some (.uses i delta)
  | contentBlockStop i => some (.closes i ())
  | _ => none

def MessagesEvent.textDelta : MessagesEvent → Option String
  | contentBlockDelta _ (.text text) => some text
  | _ => none

def MessagesEvent.thinkingDelta : MessagesEvent → Option String
  | contentBlockDelta _ (.thinking text) => some text
  | _ => none

def MessagesEvent.argumentsDelta (block : Option ℕ) : MessagesEvent → Option String
  | contentBlockDelta i (.inputJSON text) => if block = some i then some text else none
  | _ => none

def ContentBlock.Fits : ContentBlock → BlockDelta → Prop
  | text, .text _ => True
  | thinking, .thinking _ => True
  | toolUse _ _, .inputJSON _ => True
  | _, _ => False

/-- Any block may be stopped. -/
def ContentBlock.Stops (_ : ContentBlock) (_ : Unit) : Prop := True

/-- What a block is for; a tool call is known by the index that the upstream gives it. -/
inductive BlockSource where
  | thinking
  | text
  | tool (index : ℤ)
  deriving DecidableEq

namespace BlockSource

def Starts : BlockSource → ContentBlock → Prop
  | thinking, .thinking => True
  | text, .text => True
  | tool _, .toolUse _ _ => True
  | _, _ => False

def Carries : BlockSource → BlockDelta → Prop
  | thinking, .thinking _ => True
  | text, .text _ => True
  | tool _, .inputJSON _ => True
  | _, _ => False

lemma Starts.fits {src : BlockSource} {block : ContentBlock} {delta : BlockDelta}
    (hs : src.Starts block) (hc : src.Carries delta) : block.Fits delta := by
  cases src <;> cases block <;> cases delta <;>
    simp_all [Starts, Carries, ContentBlock.Fits]

end BlockSource

/-- The next block index, and the blocks given out. -/
structure BlockTable where
  started : Bool := false
  next : ℕ := 0
  block : BlockSource → Option ℕ := fun _ => none

inductive BlockMove where
  | start (id model : String) (inputTokens outputTokens : ℤ)
  | opens (src : BlockSource) (index : ℕ) (block : ContentBlock)
  | adds (src : BlockSource) (index : ℕ) (delta : BlockDelta)

namespace BlockMove

def event : BlockMove → MessagesEvent
  | start id model inputTokens outputTokens => .messageStart id model inputTokens outputTokens
  | opens _ index block => .contentBlockStart index block
  | adds _ index delta => .contentBlockDelta index delta

/-- What a move adds to the content. -/
def piece : BlockMove → Option (BlockSource × BlockDelta)
  | adds src _ delta => some (src, delta)
  | _ => none

end BlockMove

namespace BlockTable

/-- A move of a table. -/
inductive Step : BlockTable → BlockMove → BlockTable → Prop
  | start {b : BlockTable} (hnew : b.started = false) (id model : String)
      (inputTokens outputTokens : ℤ) :
      Step b (.start id model inputTokens outputTokens) { b with started := true }
  | opens {b : BlockTable} {src : BlockSource} {block : ContentBlock} (hstarted : b.started = true)
      (hnew : b.block src = none) (hblock : src.Starts block) :
      Step b (.opens src b.next block)
        { b with next := b.next + 1, block := Function.update b.block src (some b.next) }
  | adds {b : BlockTable} {src : BlockSource} {i : ℕ} {delta : BlockDelta}
      (hstarted : b.started = true) (hi : b.block src = some i) (hdelta : src.Carries delta) :
      Step b (.adds src i delta) b

variable {b b' : BlockTable} {moves : List BlockMove} {items : List ContentBlock}

/-- The blocks of the table are the items of the ledger, all open, and each has one use. -/
structure Kept (moves : List BlockMove) (b : BlockTable) (items : List ContentBlock) :
    Prop where
  run : Run ContentBlock.Fits ContentBlock.Stops
    ((moves.map BlockMove.event).filterMap MessagesEvent.mark) { items := items }
  length : items.length = b.next
  block : ∀ src i, b.block src = some i → ∃ block, src.Starts block ∧ items[i]? = some block
  injective : ∀ src src' i, b.block src = some i → b.block src' = some i → src = src'

variable {src : BlockSource}

lemma Kept.lt (h : Kept moves b items) {i : ℕ} (hi : b.block src = some i) : i < b.next := by
  obtain ⟨block, -, ht⟩ := h.block src i hi
  rw [← h.length]
  exact (List.getElem?_eq_some_iff.mp ht).1

lemma Kept.opens (h : Kept moves b items) {block : ContentBlock} (hb : src.Starts block) :
    Kept (moves ++ [.opens src b.next block])
      { b with next := b.next + 1, block := update b.block src (some b.next) }
      (items ++ [block]) where
  run := by
    rw [List.map_append, List.filterMap_append, ← h.length]
    exact .snoc h.run (.opens _ block)
  length := by simp [h.length]
  block := by
    intro src' i hi
    by_cases hsrc : src' = src
    · subst hsrc
      obtain rfl : b.next = i := by simpa using hi
      refine ⟨block, hb, ?_⟩
      rw [← h.length, List.getElem?_concat_length]
    · obtain ⟨block', hb', ht⟩ := h.block src' i (by simpa [update_of_ne hsrc] using hi)
      refine ⟨block', hb', ?_⟩
      rw [List.getElem?_append_left (List.getElem?_eq_some_iff.mp ht).1, ht]
  injective := by
    intro src₁ src₂ i h₁ h₂
    dsimp only at h₁ h₂
    by_cases hsrc₁ : src₁ = src
    · by_cases hsrc₂ : src₂ = src
      · rw [hsrc₁, hsrc₂]
      · rw [hsrc₁, update_self] at h₁
        rw [update_of_ne hsrc₂] at h₂
        have hl := h.lt h₂
        simp at h₁
        omega
    · rw [update_of_ne hsrc₁] at h₁
      by_cases hsrc₂ : src₂ = src
      · rw [hsrc₂, update_self] at h₂
        have hl := h.lt h₁
        simp at h₂
        omega
      · rw [update_of_ne hsrc₂] at h₂
        exact h.injective src₁ src₂ i h₁ h₂

lemma Kept.step (h : Kept moves b items) {move : BlockMove} (hs : Step b move b') :
    ∃ items', Kept (moves ++ [move]) b' items' := by
  cases hs with
  | start _ id model it outputTokens =>
    refine ⟨items, ?_, h.length, h.block, h.injective⟩
    rw [map_append, filterMap_append]
    exact h.run.append .nil
  | opens _ _ hb => exact ⟨_, h.opens hb⟩
  | adds _ hi hd =>
    refine ⟨items, ?_, h.length, h.block, h.injective⟩
    obtain ⟨block, hb, ht⟩ := h.block _ _ hi
    rw [map_append, filterMap_append]
    exact .snoc h.run (.uses ht (by simp) (hb.fits hd))

lemma exists_kept (h : Trace Step {} moves b) : ∃ items, Kept moves b items := by
  induction h with
  | nil => exact ⟨[], .nil, rfl, by simp, by simp⟩
  | snoc _ hs ih =>
    obtain ⟨items, hk⟩ := ih
    exact hk.step hs

/-- The message is started once, before everything else. -/
def Begun (started : Bool) (moves : List BlockMove) : Prop :=
  if started then ∃ first rest, moves = first :: rest ∧ first.event.type = "message_start" ∧
    ∀ move ∈ rest, move.event.type ≠ "message_start"
  else moves = []

lemma Begun.concat {move : BlockMove} (h : Begun true moves)
    (hv : move.event.type ≠ "message_start") : Begun true (moves ++ [move]) := by
  obtain ⟨fst, rest, rfl, hf, hr⟩ := h
  refine ⟨fst, rest ++ [move], rfl, hf, fun move' hm => ?_⟩
  rcases mem_append.mp hm with hm | hm
  · exact hr move' hm
  · obtain rfl := mem_singleton.mp hm
    exact hv

lemma begun (h : Trace Step {} moves b) : Begun b.started moves := by
  induction h with
  | nil => rfl
  | snoc _ hs ih =>
    cases hs with
    | start hn id model it outputTokens =>
      rw [hn] at ih
      obtain rfl : _ = [] := ih
      exact ⟨_, [], rfl, rfl, by simp⟩
    | opens ht _ _ | adds ht _ _ =>
      rw [ht] at ih ⊢
      exact ih.concat (by simp [BlockMove.event, type])

lemma eq_of_not_started (h : Trace Step {} moves b) (hs : b.started = false) :
    moves = [] ∧ b = {} := by
  have hb := begun h
  rw [hs] at hb
  exact ⟨hb, h.eq_of_nil hb⟩

lemma block_mono (h : Trace Step b moves b') {i : ℕ} (hi : b.block src = some i) :
    b'.block src = some i := by
  refine h.invariant (fun b => b.block src = some i) (fun b move b' hb hs => ?_) hi
  cases hs with
  | start | adds => exact hb
  | @opens src' _ _ hn _ =>
    have he : src ≠ src' := by
      rintro rfl
      simp [hb] at hn
    simpa [update_of_ne he] using hb

lemma type_event (move : BlockMove) : move.event.type ≠ "content_block_stop" ∧
    move.event.type ≠ "message_delta" ∧ move.event.type ≠ "message_stop" := by
  cases move <;> simp [BlockMove.event, type]

/-- The blocks of a table, all stopped. -/
lemma complete_stopped (h : Trace Step {} moves b) :
    ItemStreams.Complete ContentBlock.Fits ContentBlock.Stops b.next ((moves.map BlockMove.event ++
        (range b.next).map contentBlockStop).filterMap mark) := by
  obtain ⟨items, hk⟩ := exists_kept h
  have hs : ((range b.next).map contentBlockStop).filterMap
      mark = (range b.next).map fun i => .closes i () := by
    rw [filterMap_map]
    exact congrFun (filterMap_eq_map (f := fun i => Mark.closes i ())) _
  have ho : ∀ i ∈ range b.next, i ∉ [] ∧ ∃ block, items[i]? = some block ∧ block.Stops () := by
    intro i hi
    rw [mem_range, ← hk.length] at hi
    exact ⟨not_mem_nil, _, getElem?_eq_getElem hi, trivial⟩
  have hc := Run.closeAll (fun _ => ()) hk.run nodup_range ho
  rw [filterMap_append, hs, ← hk.length]
  rw [← hk.length] at hc
  exact Run.complete hc fun i hi => by simpa using hi

/-- What is added to a source goes to its block. -/
lemma block_of_adds (h : Trace Step b moves b') :
    ∀ src i delta, .adds src i delta ∈ moves → b'.block src = some i ∧ src.Carries delta := by
  induction h with
  | nil => simp
  | snoc ht hs ih =>
    intro src i delta hm
    rcases mem_append.mp hm with hm | hm
    · obtain ⟨hi, hc⟩ := ih src i delta hm
      exact ⟨block_mono (.single hs) hi, hc⟩
    · obtain rfl := mem_singleton.mp hm
      cases hs with
      | adds _ hi hd => exact ⟨hi, hd⟩

end BlockTable
end TokenliveGateway
