import TokenliveGateway.ToolRounds

/-!
# The order of a conversation

A part of a history is settled if its calls have their outputs in it. The order of the
conversation is kept if the chat of a settled part stays as it is whatever follows: later
texts, calls and thoughts then go into later messages. This is so exactly if no round is
open any more when something new is said.
-/
namespace TokenliveGateway
open List ChatMessage

namespace Assembly
variable {h : History} {s s' : Assembly} {item : HistoryItem}
  {start : List ChatMessage} {items part rest : List HistoryItem}

/-! ## Settled parts -/

/-- Every call of the part that has one of the ids has an output in the part. -/
def Settled (ids : List String) (part : List HistoryItem) : Prop :=
  ∀ call ∈ answeredCalls ids part, call.1 ∈ outputIDs part

lemma Settled.append {ids : List String} (hp : Settled ids part)
    (hn : answeredCalls ids rest = []) : Settled ids (part ++ rest) := by
  intro call hc
  rw [answeredCalls_append, hn, append_nil] at hc
  have hi : outputIDs (part ++ rest) = outputIDs part ++ outputIDs rest :=
    filterMap_append
  rw [hi]
  exact mem_append_left _ (hp call hc)

variable (h start) in
/-- The state after a part of the history. -/
def after (part : List HistoryItem) : Assembly := part.foldl (stepItem h) { messages := start }

variable (h start) in
/-- The messages for a part of the history. -/
def chat (part : List HistoryItem) : List ChatMessage :=
  (assemble h { messages := start } part).messages

lemma after_append (part rest : List HistoryItem) :
    after h start (part ++ rest) = rest.foldl (stepItem h) (after h start part) :=
  foldl_append

lemma chat_append (part rest : List HistoryItem) :
    chat h start (part ++ rest) = (assemble h (after h start part) rest).messages := by
  rw [chat, assemble, foldl_append]
  rfl

lemma Waiting.foldl (hs : Waiting h s) (items : List HistoryItem) :
    Waiting h (items.foldl (stepItem h) s) := by
  induction items generalizing s with
  | nil => exact hs
  | cons item items ih => exact ih (hs.step (stepItem_effect s item))

lemma waiting_after (part : List HistoryItem) : Waiting h (after h start part) :=
  Waiting.foldl ⟨by simp, fun _ => rfl⟩ part

lemma chat_eq (part : List HistoryItem) :
    chat h start part = (after h start part).messages ++ round h (after h start part) :=
  flush_messages (waiting_after part)

lemma chat_of_closed (hc : (after h start part).pendingToolCalls = []) :
    chat h start part = (after h start part).messages := by
  rw [chat_eq, round_of_closed hc, append_nil]

/-! ## What later items change -/

lemma Effect.messages_grow (hs : Waiting h s) (ht : Effect h s item s') :
    s.messages <+: s'.messages := by
  rcases ht.messages_prefix hs with ⟨hm, -⟩ | hr
  · rw [hm]
  · exact (prefix_append _ _).trans hr

lemma messages_assemble (hs : Waiting h s) (items : List HistoryItem) :
    s.messages <+: (assemble h s items).messages := by
  induction items generalizing s with
  | nil =>
    have hf : (assemble h s []).messages = s.messages ++ round h s := flush_messages hs
    rw [hf]
    exact prefix_append _ _
  | cons item items ih =>
    have ht := stepItem_effect (h := h) s item
    exact (ht.messages_grow hs).trans (ih (hs.step ht))

lemma round_of_open (ho : s.pendingToolCalls ≠ []) :
    round h s = roundMessage h s :: s.pendingToolCalls.map (answer h) :=
  if_neg ho

/-- The calls of an open round are sent in one message, which is the next one. -/
lemma open_round (hs : Waiting h s) (ho : s.pendingToolCalls ≠ [])
    (items : List HistoryItem) : ∃ m rest,
      (assemble h s items).messages = s.messages ++ m :: rest ∧ s.pendingToolCalls <+: m.calls := by
  -- the round is closed, and its message is the next one
  have hsn : ∀ {s : Assembly} {chat : List ChatMessage}, s.pendingToolCalls ≠ [] →
      s.messages ++ round h s <+: chat → ∃ m rest,
        chat = s.messages ++ m :: rest ∧ s.pendingToolCalls <+: m.calls := by
    rintro s chat ho ⟨more, rfl⟩
    refine ⟨roundMessage h s, s.pendingToolCalls.map (answer h) ++ more, ?_, ?_⟩
    · rw [round_of_open ho, append_assoc, cons_append]
    · rw [roundMessage_calls]
  induction items generalizing s with
  | nil => exact hsn ho (flush_messages hs ▸ prefix_refl _)
  | cons item items ih =>
    have ht := stepItem_effect (h := h) s item
    have hs' := hs.step ht
    rcases ht.messages_prefix hs with ⟨hsm, hcalls⟩ | hl
    · have ho' : (stepItem h s item).pendingToolCalls ≠ [] := by
        intro hn
        rw [hn, prefix_nil] at hcalls
        exact ho hcalls
      obtain ⟨m, rest, hc, hm⟩ := ih hs' ho'
      exact ⟨m, rest, hsm ▸ hc, hcalls.trans hm⟩
    · exact hsn ho (hl.trans (messages_assemble hs' items))

/-- An item that says nothing leaves the chat so far as it is. -/
lemma Effect.flush_prefix (hs : Waiting h s) (hi : ¬Says h s item)
    (ht : Effect h s item s') :
    (flushPendingToolCalls h s).messages <+: (flushPendingToolCalls h s').messages := by
  have hf : ∀ {s' : Assembly}, Waiting h s' →
      (flushPendingToolCalls h s).messages <+: s'.messages →
      (flushPendingToolCalls h s).messages <+: (flushPendingToolCalls h s').messages := by
    intro s' hs' hsn
    rw [flush_messages hs']
    exact hsn.trans (prefix_append _ _)
  have hs' := hs.step ht
  cases ht with
  | idle => exact prefix_refl _
  | @thinks text hx =>
    have hm : text = s.pendingReasoning := by
      by_contra hn
      exact hi ⟨hx, hn⟩
    subst hm
    exact prefix_refl _
  | calls call mp hk => exact absurd hk hi
  | adds _ hx => exact absurd ⟨rfl, rfl, hx⟩ hi
  | closes | drops => exact hf hs' (prefix_refl _)
  | sends => exact hf hs' (prefix_append _ _)

/-! ## Closed rounds -/

variable (h start items) in
/-- When something new is said after a settled part, no round is open. -/
def RoundsClosed : Prop :=
  ∀ part item rest, items = part ++ item :: rest → Settled (outputIDs items) part →
    Says h (after h start part) item → (after h start part).pendingToolCalls = []

variable (h start items) in
def SettledStay : Prop :=
  ∀ part rest, items = part ++ rest → Settled (outputIDs items) part →
    chat h start part <+: chat h start items

lemma after_snoc (part : List HistoryItem) (item : HistoryItem) :
    after h start (part ++ [item]) = stepItem h (after h start part) item :=
  after_append part [item]

lemma RoundsClosed.stay (ho : h.Of items) (hc : RoundsClosed h start items) :
    SettledStay h start items := by
  intro part rest
  induction rest generalizing part with
  | nil =>
    intro hi _
    rw [hi, append_nil]
  | cons item rest ih =>
    intro hi hp
    by_cases hy : Says h (after h start part) item
    · rw [chat_of_closed (hc part item rest hi hp hy), hi, chat_append]
      exact messages_assemble (waiting_after part) _
    · have hs := stepItem_effect (h := h) (after h start part) item
      have hn : chat h start part <+: chat h start (part ++ [item]) := by
        have hf := hs.flush_prefix (waiting_after part) hy
        rw [← after_snoc] at hf
        exact hf
      exact hn.trans (ih (part ++ [item]) (by simp [hi])
        (hp.append (answeredCalls_of_idle ho hy)))

lemma eq_of_prefixes {α : Type*} {pre more more' all : List α} {m m' : α}
    (hm : pre ++ m :: more <+: all) (hm' : pre ++ m' :: more' <+: all) : m = m' := by
  obtain ⟨tail, rfl⟩ := hm
  obtain ⟨tail', ht'⟩ := hm'
  rw [append_assoc, append_assoc, append_cancel_left_eq] at ht'
  exact (cons.inj ht').1.symm

lemma roundMessage_ne_of_text {text : String} (ht : text ≠ "") :
    roundMessage h s ≠ roundMessage h
      { s with
        pendingToolText :=
          (if s.pendingToolText = "" then "" else s.pendingToolText ++ "\n") ++ text } := by
  intro hs
  have hc := congrArg content hs
  rw [roundMessage_content, roundMessage_content] at hc
  by_cases he : s.pendingToolText = ""
  · rw [if_pos he, if_pos he, String.empty_append, if_neg ht] at hc
    cases hc
  · split_ifs at hc
    have hl := congrArg String.length (Option.some.inj hc)
    rw [String.length_append, String.length_append] at hl
    have ho : "\n".length = 1 := rfl
    omega

lemma roundMessage_ne_of_reasoning {text : String} (ht : text ≠ "")
    (hn : text ≠ s.pendingReasoning) :
    roundMessage h s ≠ roundMessage h { s with pendingReasoning := text } := by
  intro hs
  have hr := congrArg reasoningContent hs
  rw [roundMessage_reasoning (s := { s with pendingReasoning := text }) ht] at hr
  by_cases he : s.pendingReasoning = ""
  · simp only [roundMessage, applyAssistantReasoning, he] at hr
    split_ifs at hr
    all_goals simp_all
  · rw [roundMessage_reasoning he] at hr
    exact hn (Option.some.inj hr).symm

/-- What is said while a round is open changes the message of the round. -/
lemma SettledStay.closed (ht : SettledStay h start items) : RoundsClosed h start items := by
  intro part item rest hi hpa hy
  by_contra ho
  have hr : (after h start part).messages ++ roundMessage h (after h start part) ::
      (after h start part).pendingToolCalls.map (answer h) <+: chat h start items := by
    have hp := ht part (item :: rest) hi hpa
    rwa [chat_eq, round_of_open ho] at hp
  have hnx : answeredCalls (outputIDs items) [item] = [] →
      chat h start (part ++ [item]) <+: chat h start items :=
    fun hn => ht (part ++ [item]) rest (by simp [hi]) (hpa.append hn)
  have ha : chat h start items =
      (assemble h (after h start (part ++ [item])) rest).messages := by
    rw [← chat_append, hi, append_assoc]
    rfl
  have hw : Waiting h (after h start (part ++ [item])) := waiting_after _
  rw [chat_eq] at hnx
  have hs := stepItem_effect (h := h) (after h start part) item
  rw [← after_snoc] at hs
  generalize after h start (part ++ [item]) = s' at *
  generalize after h start part = s at *
  have he : answeredCalls (outputIDs items) [item] = [] → s'.messages = s.messages →
      s'.pendingToolCalls ≠ [] → roundMessage h s = roundMessage h s' := by
    intro hn hsm ho'
    have hp := hnx hn
    rw [round_of_open ho', hsm] at hp
    exact eq_of_prefixes hr hp
  cases hs with
  | idle hd => exact hd hy
  | thinks hx => exact roundMessage_ne_of_reasoning hx hy.2 (he rfl rfl ho)
  | calls call mp hk =>
    obtain ⟨m, more, hch, hcalls⟩ := open_round hw (by simp) rest
    have hp : s.messages ++ m :: more <+: chat h start items := by rw [ha, hch]
    have hm : roundMessage h s = m := eq_of_prefixes hr hp
    rw [← hm, roundMessage_calls] at hcalls
    have hln := hcalls.length_le
    rw [length_append, length_singleton] at hln
    omega
  | adds _ hx => exact roundMessage_ne_of_text hx (he rfl rfl ho)
  | closes => exact hy
  | drops hc | sends hc =>
    obtain ⟨hrl, hcalls, -⟩ := hy
    rcases hc with hg | hh | hl
    · exact hg hcalls
    · exact hh hrl
    · exact ho hl

lemma flush_outputs (hs : Waiting h s) {outs : List HistoryItem}
    (ho : ∀ item ∈ outs, ∃ callID text, item = .output callID text) :
    (assemble h s outs).messages = s.messages ++ round h s := by
  induction outs generalizing s with
  | nil => exact flush_messages hs
  | cons item outs ih =>
    obtain ⟨callID, text, rfl⟩ := ho item mem_cons_self
    have hr := fun i hi => ho i (mem_cons_of_mem _ hi)
    have ht := stepItem_effect (h := h) s (.output callID text)
    have hs' := hs.step ht
    have hn := ih hs' hr
    change (assemble h (stepItem h s (.output callID text)) outs).messages = _
    rw [hn]
    generalize stepItem h s (.output callID text) = s' at ht hs'
    cases ht with
    | idle _ => rfl
    | closes =>
      rw [round_of_closed (flush_pendingToolCalls hs), append_nil, flush_messages hs]

/-! ## The order of the conversation -/

/-- The order of the history `items` in the messages `all`. -/
structure OrderKept (h : History) (start : List ChatMessage) (items : List HistoryItem)
    (all : List ChatMessage) : Prop where
  /-- The rounds of a settled part stand in front, and no later call is in one of them. -/
  separate : ∀ part rest, items = part ++ rest → Settled (outputIDs items) part →
    ∃ more, all = chat h start part ++ more ∧
      Rounds items (fun m => m.calls = []) (chat h start part) ∧
      sentCalls (chat h start part) = answeredCalls (outputIDs items) part ∧
      sentCalls more = answeredCalls (outputIDs items) rest
  /-- A text of the assistant after a settled part comes after its rounds. -/
  text : ∀ part text name toolCallID rest,
    items = part ++ .message "assistant" text name toolCallID none :: rest →
    Settled (outputIDs items) part → isBlank text = false →
    ∃ m more, all = chat h start part ++ m :: more ∧
      m.role = "assistant" ∧ m.content = some text ∧ m.calls = []
  /-- The thought in front of a text stays with it. -/
  thoughtText : ∀ part thought text name toolCallID rest,
    items = part ++ .reasoning thought :: .message "assistant" text name toolCallID none :: rest →
    Settled (outputIDs items) part → thought ≠ "" → isBlank text = false →
    ∃ m more, all = chat h start part ++ m :: more ∧
      m.content = some text ∧ m.reasoningContent = some thought
  /-- The thought in front of a round stays with it. -/
  thoughtRound : ∀ part thought calls outputs rest,
    items = part ++ (.reasoning thought :: (calls ++ outputs) ++ rest) →
    Settled (outputIDs items) part →
    Settled (outputIDs items) (part ++ .reasoning thought :: (calls ++ outputs)) → thought ≠ "" →
    (∀ item ∈ calls, ∃ custom callID name toolNamespace arguments,
      item = .call custom callID name toolNamespace arguments) →
    answeredCalls (outputIDs items) calls ≠ [] →
    (∀ item ∈ outputs, ∃ callID text, item = .output callID text) →
    ∃ m answers more, all = chat h start part ++ m :: (answers ++ more) ∧
      m.reasoningContent = some thought ∧ sentCalls [m] = answeredCalls (outputIDs items) calls ∧
      List.Forall₂ (Answers items) m.calls answers

lemma fits_no_calls (item : HistoryItem) : Fits (fun m => m.calls = []) item := by
  cases item with
  | message role text name toolCallID toolCalls =>
    intro m _ hcalls
    rw [calls, hcalls]
    cases toolCalls <;> rfl
  | reasoning | call | output => trivial

lemma chat_rounds (ho : h.Of items) (hs : ∀ m ∈ start, m.calls = [])
    (part : List HistoryItem) :
    Rounds items (fun m => m.calls = []) (chat h start part) ∧
      sentCalls (chat h start part) = answeredCalls (outputIDs items) part :=
  assemble_rounds ho (fun _ hm => hm) (.of_all hs) (sentCalls_of_all hs)
    fun item _ => fits_no_calls item

lemma says_text {text name toolCallID : String} (ht : isBlank text = false) :
    Says h s (.message "assistant" text name toolCallID none) := by
  refine ⟨rfl, rfl, ?_⟩
  rintro rfl
  exact absurd ht (by decide)

lemma send_text {text : String} (name toolCallID : String) (hc : s.pendingToolCalls = [])
    (hx : isBlank text = false) : ∃ m,
      (stepItem h s (.message "assistant" text name toolCallID none)).messages =
        s.messages ++ [m] ∧
      m.role = "assistant" ∧ m.content = some text ∧ m.calls = [] ∧
      (s.pendingReasoning ≠ "" → m.reasoningContent = some s.pendingReasoning) := by
  have hs := stepItem_effect (h := h) s (.message "assistant" text name toolCallID none)
  generalize stepItem h s _ = s' at hs ⊢
  cases hs with
  | idle hi => exact absurd (says_text hx) hi
  | adds ho _ => exact absurd hc ho
  | drops _ hb =>
    rw [hx] at hb
    cases hb
  | sends _ m rs hr hn hcalls ht =>
    rw [flush_of_closed hc] at ht ⊢
    have hr' : m.role = "assistant" := hr
    refine ⟨m, rfl, hr', hn, ?_, ht hr'⟩
    rw [calls, hcalls]
    rfl

lemma RoundsClosed.text (hc : RoundsClosed h start items) {text name toolCallID : String}
    (hi : items = part ++ .message "assistant" text name toolCallID none :: rest)
    (hp : Settled (outputIDs items) part) (ht : isBlank text = false) :
    ∃ m more, chat h start items = (after h start part).messages ++ m :: more ∧
      m.role = "assistant" ∧ m.content = some text ∧ m.calls = [] ∧
      ((after h start part).pendingReasoning ≠ "" →
        m.reasoningContent = some (after h start part).pendingReasoning) := by
  have ho := hc part _ rest hi hp (says_text ht)
  obtain ⟨m, hs, hm⟩ := send_text (h := h) name toolCallID ho ht
  have hg : (after h start part).messages ++ [m] <+: chat h start items := by
    have hi' : items = part ++ [.message "assistant" text name toolCallID none] ++ rest := by
      simp [hi]
    rw [← hs, ← after_snoc, hi', chat_append]
    exact messages_assemble (waiting_after _) rest
  obtain ⟨more, hr⟩ := hg
  exact ⟨m, more, by rw [← hr, append_assoc]; rfl, hm⟩

variable {thought : String}

lemma after_reasoning (ht : thought ≠ "") :
    after h start (part ++ [.reasoning thought]) =
      { after h start part with pendingReasoning := thought } := by
  rw [after_snoc]
  exact if_neg ht

lemma RoundsClosed.thoughtText (hc : RoundsClosed h start items)
    {thought text name toolCallID : String}
    (hi : items = part ++ .reasoning thought ::
      .message "assistant" text name toolCallID none :: rest)
    (hp : Settled (outputIDs items) part) (ht : thought ≠ "")
    (hx : isBlank text = false) :
    ∃ m more, chat h start items = chat h start part ++ m :: more ∧
      m.content = some text ∧ m.reasoningContent = some thought := by
  have hi' : items = (part ++ [.reasoning thought]) ++
      .message "assistant" text name toolCallID none :: rest := by simp [hi]
  have hp' : Settled (outputIDs items) (part ++ [.reasoning thought]) := hp.append rfl
  have ho := hc _ _ rest hi' hp' (says_text hx)
  obtain ⟨m, more, ha, -, hn, -, hr⟩ := hc.text hi' hp' hx
  rw [after_reasoning ht] at ho ha hr
  refine ⟨m, more, ?_, hn, hr ht⟩
  rw [ha, chat_of_closed ho]

section Calls
variable {calls : List HistoryItem}
  (hcalls : ∀ item ∈ calls, ∃ custom callID name toolNamespace arguments,
    item = .call custom callID name toolNamespace arguments)
include hcalls

lemma foldl_calls (ho : h.Of items) (s : Assembly) :
    ∃ mapper more, calls.foldl (stepItem h) s =
        { s with mapper := mapper, pendingToolCalls := s.pendingToolCalls ++ more } ∧
      more.map (fun call => (call.id, call.arguments)) = answeredCalls (outputIDs items) calls := by
  induction calls using reverseRecOn with
  | nil => exact ⟨s.mapper, [], by simp, rfl⟩
  | append_singleton calls item ih =>
    obtain ⟨mapper, more, hr, hm⟩ := ih fun i hi => hcalls i (mem_append_left _ hi)
    obtain ⟨custom, callID, name, toolNamespace, arguments, rfl⟩ := hcalls item (by simp)
    rw [foldl_append, foldl_cons, foldl_nil, answeredCalls_append, ← hm, hr]
    have hs := stepItem_effect (h := h)
      { s with mapper := mapper, pendingToolCalls := s.pendingToolCalls ++ more }
      (.call custom callID name toolNamespace arguments)
    generalize stepItem h _ _ = s' at hs ⊢
    cases hs with
    | idle hd =>
      rw [answeredCalls_of_idle ho hd, append_nil]
      exact ⟨mapper, more, rfl, rfl⟩
    | calls call mapper' hk =>
      refine ⟨mapper', more ++ [call], by rw [append_assoc], ?_⟩
      rw [answeredCalls_call ((ho.keys call.id).mp hk), map_append]
      rfl

/-- The calls of a round come when no other round is open. -/
lemma RoundsClosed.before_calls (ho : h.Of items) (hl : RoundsClosed h start items)
    (hi : items = part ++ calls ++ rest) (ha : Settled (outputIDs items) part)
    (hso : answeredCalls (outputIDs items) calls ≠ []) :
    (after h start part).pendingToolCalls = [] := by
  induction calls generalizing part with
  | nil => exact absurd rfl hso
  | cons item calls ih =>
    by_cases hy : Says h (after h start part) item
    · exact hl part item (calls ++ rest) (by simp [hi]) ha hy
    · -- the item is a call without output, and changes nothing
      have hn := answeredCalls_of_idle ho hy
      have hsm : after h start (part ++ [item]) = after h start part := by
        obtain ⟨custom, callID, name, toolNamespace, arguments, rfl⟩ := hcalls item (by simp)
        rw [after_snoc]
        exact if_pos (not_not.mp hy)
      rw [← hsm]
      refine ih (fun i hi => hcalls i (mem_cons_of_mem _ hi)) (by simp [hi]) (ha.append hn) ?_
      rwa [← singleton_append, answeredCalls_append, hn, nil_append] at hso

lemma RoundsClosed.thoughtRound (ho : h.Of items) (hc : RoundsClosed h start items)
    {outs : List HistoryItem}
    (hi : items = part ++ (.reasoning thought :: (calls ++ outs) ++ rest))
    (ha : Settled (outputIDs items) part)
    (hn : Settled (outputIDs items) (part ++ .reasoning thought :: (calls ++ outs)))
    (hth : thought ≠ "")
    (hso : answeredCalls (outputIDs items) calls ≠ [])
    (hot : ∀ item ∈ outs, ∃ callID text, item = .output callID text) :
    ∃ m answers more, chat h start items = chat h start part ++ m :: (answers ++ more) ∧
      m.reasoningContent = some thought ∧ sentCalls [m] = answeredCalls (outputIDs items) calls ∧
      List.Forall₂ (Answers items) m.calls answers := by
  have hi' : items = part ++ [.reasoning thought] ++ calls ++ (outs ++ rest) := by simp [hi]
  have hb : (after h start part).pendingToolCalls = [] := by
    have hb := hc.before_calls hcalls ho hi' (ha.append rfl) hso
    rwa [after_reasoning hth] at hb
  -- the state in front of the outputs
  obtain ⟨mapper, more, hr, hm⟩ :=
    foldl_calls hcalls ho (after h start (part ++ [.reasoning thought]))
  rw [← after_append, after_reasoning hth] at hr
  rw [hb, nil_append] at hr
  have hw : Waiting h (after h start (part ++ [.reasoning thought] ++ calls)) :=
    waiting_after _
  have hh : chat h start (part ++ .reasoning thought :: (calls ++ outs)) =
      (after h start (part ++ [.reasoning thought] ++ calls)).messages ++
        round h (after h start (part ++ [.reasoning thought] ++ calls)) := by
    rw [← flush_outputs hw hot, ← chat_append]
    simp
  obtain ⟨tail, ht⟩ := hc.stay ho _ rest (by simp [hi]) hn
  have hop : more ≠ [] := by
    rintro rfl
    exact hso hm.symm
  rw [hh, hr] at ht
  rw [hr] at hw
  generalize hs : ({ after h start part with
    pendingReasoning := thought, mapper := mapper, pendingToolCalls := more } : Assembly) = s
    at ht hw
  have hp : s.pendingToolCalls = more := by rw [← hs]
  have hrs : s.pendingReasoning = thought := by rw [← hs]
  have hms : s.messages = chat h start part := by rw [← hs, chat_of_closed hb]
  rw [round_of_open (by rwa [hp]), hms] at ht
  refine ⟨roundMessage h s, s.pendingToolCalls.map (answer h), tail, ?_, ?_, ?_, ?_⟩
  · rw [← ht, append_assoc, cons_append]
  · rw [roundMessage_reasoning (by rwa [hrs]), hrs]
  · rw [sentCalls_cons, roundMessage_calls, hp, hm]
    exact append_nil _
  · rw [roundMessage_calls]
    exact answers_round ho hw

end Calls

/-- Closed rounds are what keeps the order. -/
lemma orderKept_iff (ho : h.Of items) (hs : ∀ m ∈ start, m.calls = []) :
    OrderKept h start items (chat h start items) ↔ RoundsClosed h start items := by
  constructor
  · intro hk
    refine SettledStay.closed fun part rest hi hp => ?_
    obtain ⟨more, ha, -⟩ := hk.separate part rest hi hp
    exact ⟨more, ha.symm⟩
  · intro hc
    refine ⟨?_, ?_, ?_, ?_⟩
    · intro part rest hi hp
      obtain ⟨more, hm⟩ := hc.stay ho part rest hi hp
      obtain ⟨hro, hcalls⟩ := chat_rounds ho hs part
      refine ⟨more, hm.symm, hro, hcalls, ?_⟩
      have ha := (chat_rounds ho hs items).2
      rw [← hm, sentCalls_append, hcalls] at ha
      have hsp : ∀ ids, answeredCalls ids items =
          answeredCalls ids part ++ answeredCalls ids rest := by
        intro ids
        rw [hi, answeredCalls_append]
      rw [hsp] at ha
      exact append_cancel_left ha
    · intro part text name toolCallID rest hi hp ht
      obtain ⟨m, more, ha, hr, hn, hcalls, -⟩ := hc.text hi hp ht
      have hop := hc part _ rest hi hp (says_text ht)
      rw [← chat_of_closed hop] at ha
      exact ⟨m, more, ha, hr, hn, hcalls⟩
    · intro part thought text name toolCallID rest hi hp hh ht
      exact hc.thoughtText hi hp hh ht
    · intro part thought calls outs rest hi hp hrn hh hcalls hso hot
      exact hc.thoughtRound hcalls ho hi hp hrn hh hso hot

end Assembly

open Assembly

def twoRounds : Fields :=
  [("input", .array
    [.object [("type", .str "reasoning"), ("summary", .str "First the time.")],
      .object [("type", .str "function_call"), ("call_id", .str "call_1"), ("name", .str "time")],
      .object [("type", .str "function_call_output"), ("call_id", .str "call_1"),
        ("output", .str "noon")],
      .object [("type", .str "reasoning"), ("summary", .str "Now the weather.")],
      .object [("type", .str "function_call"), ("call_id", .str "call_2"),
        ("name", .str "weather")],
      .object [("type", .str "function_call_output"), ("call_id", .str "call_2"),
        ("output", .str "rain")],
      .object [("role", .str "assistant"), ("content", .str "It rains at noon.")]])]

end TokenliveGateway
