import TokenliveGateway.AnthropicStreams
import TokenliveGateway.ResponseItems

/-!
# Messages streams become well-formed Responses streams

A Messages stream that keeps to its protocol is translated block by block: every block
that has an output item becomes one run of events, from the announcement of the item to
its `done` event, and the item is recorded at the index under which it was announced.
-/
namespace TokenliveGateway
open EventStreams GoStrings ItemStreams LabelledRuns List ResponsesEvent SentBlock

/-! ## What the upstream has sent -/

/-- What a block says: the output item that it is to become. -/
structure UpstreamItem where
  kind : ItemKind
  callID : String := ""
  name : String := ""
  deltas : List UpstreamDelta := []
  signature : String := ""

namespace UpstreamDelta

/-- The text that a delta adds. -/
def content : UpstreamDelta → String
  | .thinking added | .text added | .inputJSON added => added
  | .signature _ | .other => ""

def sign : UpstreamDelta → String
  | .signature added => added
  | _ => ""

end UpstreamDelta

namespace UpstreamItem

def content (o : UpstreamItem) : String := .join (o.deltas.map UpstreamDelta.content)

/-- The signature that a thinking block ends with, or the data of a redacted one. -/
def sign (o : UpstreamItem) : String := o.signature ++ .join (o.deltas.map UpstreamDelta.sign)

end UpstreamItem

def UpstreamBlock.item (deltas : List UpstreamDelta) : UpstreamBlock → Option UpstreamItem
  | thinking => some { kind := .thinking, deltas := deltas }
  | redactedThinking data => some { kind := .redactedThinking, deltas := deltas, signature := data }
  | text => some { kind := .text, deltas := deltas }
  | toolUse id name => some { kind := .toolUse, callID := id, name := name, deltas := deltas }
  | other => none

def SentBlock.item (b : SentBlock) : Option UpstreamItem := b.block.item b.deltas

namespace MessagesToResponsesStream

/-! ## One event -/

def startItem (idBase : String) (i : ℕ) (o : UpstreamItem) : ResponsesStreamItem where
  kind := o.kind
  outputIndex := i
  itemID :=
    match o.kind with
    | .thinking | .redactedThinking => "rs_" ++ idBase ++ "_" ++ toString i
    | .text => "msg_" ++ idBase ++ "_" ++ toString i
    | .toolUse => "fc_" ++ trimFront o.callID "toolu_"
  callID := o.callID
  name := o.name
  signature := o.signature

def deltaEvents (respID : String) (item : ResponsesStreamItem) (delta : UpstreamDelta) :
    List ResponsesStreamEvent :=
  if delta.content = "" then []
  else
    match delta with
    | .thinking text => [⟨.reasoningTextDelta respID item.itemID item.outputIndex text, 0⟩]
    | .text text => [⟨.outputTextDelta respID item.itemID item.outputIndex text, 0⟩]
    | .inputJSON text => [⟨.argumentsDelta respID item.itemID none item.outputIndex text, 0⟩]
    | .signature _ | .other => []

/-- The item after a delta. -/
def grow (item : ResponsesStreamItem) (delta : UpstreamDelta) : ResponsesStreamItem :=
  { item with
    text := item.text ++ delta.content
    signature := item.signature ++ delta.sign }

def feedEvent : UpstreamEvent → MessagesToResponsesStream → Step
  | .messageStart message, s => emitStarted (noteMessage message s)
  | .contentBlockStart index block, s =>
    match block.item [] with
    | none => ([], s)
    | some o =>
      let item := startItem s.idBase s.nextOutput o
      emitItemAdded item (putItem index item { s with nextOutput := s.nextOutput + 1 })
  | .contentBlockDelta index delta, s =>
    match s.items.lookup index with
    | none => ([], s)
    | some item =>
      (deltaEvents s.respID item delta,
        match delta with
        | .signature _ => putItem index (grow item delta) s
        | _ => if delta.content = "" then s else putItem index (grow item delta) s)
  | .contentBlockStop index, s =>
    match s.items.lookup index with
    | none => ([], s)
    | some item => closeItem (index, item) s
  | .messageDelta ev, s => ([], noteDelta ev s)
  | .messageStop, s => chain (chainAll closeItem (sortedOpenItems s) s) fun s => (finalEvents s, s)
  | .ping, s | .broken, s => ([], s)

/-- The events and the machine after a frame. -/
def feed (d : Decoders) (data : Bytes) (s : MessagesToResponsesStream) : Step :=
  ((feedJSON d data s).1, (feedJSON d data s).2.2)

variable {block : UpstreamBlock} (ix : ℤ) {b : SentBlock} {e : ResponsesStreamEvent}

lemma newItem_eq {fields : Fields} (hb : readBlock fields = some block)
    (s : MessagesToResponsesStream) :
    newItem fields s = (block.item []).map (startItem s.idBase s.nextOutput) := by
  unfold readBlock at hb
  unfold newItem
  dsimp only at hb ⊢
  split_ifs at hb ⊢
  all_goals
    obtain rfl := Option.some.inj hb
    rfl

lemma startBlock_eq {ev : Fields}
    (hb : (ev.object? "content_block").bind readBlock = some block)
    (s : MessagesToResponsesStream) :
    startBlock ev s = feedEvent (.contentBlockStart (ev.int "index") block) s := by
  obtain ⟨fields, hf, hr⟩ := Option.bind_eq_some_iff.mp hb
  dsimp only [startBlock, feedEvent]
  rw [hf, Option.bind_some, newItem_eq hr s]
  cases block.item [] <;> rfl

lemma feedDelta_eq {ev delta : Fields} (hd : ev.object? "delta" = some delta)
    (s : MessagesToResponsesStream) :
    (feedDelta ev s).1 = feedEvent (.contentBlockDelta (ev.int "index") (readDelta delta)) s := by
  dsimp only [feedDelta, feedEvent]
  cases hi : s.items.lookup (ev.int "index") with
  | none => rfl
  | some item =>
    unfold readDelta
    dsimp only
    split_ifs <;> simp_all [deltaEvents, UpstreamDelta.content, grow, UpstreamDelta.sign]

lemma feed_eq_feedEvent {d : Decoders} {data : Bytes} {e : UpstreamEvent}
    (he : upstreamEvent d data = e) (hw : e ≠ .broken) (s : MessagesToResponsesStream) :
    feed d data s = feedEvent e s := by
  unfold upstreamEvent at he
  unfold feed feedJSON
  split_ifs at he ⊢ with hn
  · rw [← he]
    rfl
  · cases hv : d.object data with
    | none => exact absurd (by rw [← he, hv]) hw
    | some ev =>
      rw [hv] at he
      dsimp only at he ⊢
      unfold readEvent at he
      dsimp only at he
      split_ifs at he ⊢
      · cases hm : Fields.object? ev "message" with
        | none => exact absurd (by rw [← he, hm]) hw
        | some msg =>
          rw [hm] at he
          rw [← he]
          rfl
      · cases hb : (Fields.object? ev "content_block").bind readBlock with
        | none => exact absurd (by rw [← he, hb]) hw
        | some block =>
          rw [hb] at he
          rw [← he]
          exact startBlock_eq hb s
      · cases hd : Fields.object? ev "delta" with
        | none => exact absurd (by rw [← he, hd]) hw
        | some delta =>
          rw [hd] at he
          rw [← he]
          exact feedDelta_eq hd s
      · rw [← he]
        rfl
      · rw [← he]
        rfl
      · rw [← he]
        rfl
      · exact absurd he.symm hw
      · rw [← he]
        rfl

/-! ## One block -/

def finalItem (idBase : String) (i : ℕ) (o : UpstreamItem) : ResponsesStreamItem :=
  { startItem idBase i o with text := o.content, signature := o.sign }

lemma foldl_grow (ds : List UpstreamDelta) (item : ResponsesStreamItem) :
    ds.foldl grow item =
      { item with
        text := item.text ++ .join (ds.map UpstreamDelta.content)
        signature := item.signature ++ .join (ds.map UpstreamDelta.sign) } := by
  induction ds generalizing item with
  | nil => simp
  | cons delta rest ih =>
    rw [foldl_cons, ih]
    simp [grow, String.join_cons, String.append_assoc]

lemma lookup_putItem (item : ResponsesStreamItem) (s : MessagesToResponsesStream) :
    (putItem ix item s).items.lookup ix = some item := by
  simp [putItem]

lemma putItem_putItem (item item' : ResponsesStreamItem) (s : MessagesToResponsesStream) :
    putItem ix item' (putItem ix item s) = putItem ix item' s := by
  simp [putItem, filter_filter]

lemma feedEvent_delta (delta : UpstreamDelta) (item : ResponsesStreamItem)
    (s : MessagesToResponsesStream) :
    feedEvent (.contentBlockDelta ix delta) (putItem ix item s) =
      (deltaEvents s.respID item delta, putItem ix (grow item delta) s) := by
  have hg : delta.content = "" → delta.sign = "" → grow item delta = item := by
    intro hc hs
    simp [grow, hc, hs]
  dsimp only [feedEvent]
  rw [lookup_putItem]
  cases delta with
  | signature added => exact Prod.ext rfl (putItem_putItem _ _ _ _)
  | _ =>
    refine Prod.ext rfl ?_
    split_ifs with he
    · rw [hg he rfl]
    · exact putItem_putItem _ _ _ _

lemma chainAll_deltas (ds : List UpstreamDelta) (item : ResponsesStreamItem)
    (s : MessagesToResponsesStream) :
    chainAll feedEvent (ds.map (.contentBlockDelta ix)) (putItem ix item s) =
      (ds.flatMap (deltaEvents s.respID item), putItem ix (ds.foldl grow item) s) := by
  induction ds generalizing item with
  | nil => rfl
  | cons delta rest ih =>
    rw [map_cons, chainAll, chain, feedEvent_delta]
    rw [ih]
    rfl

/-- What stands between the announcement of an item and its `done` event. -/
def middleEvents (respID idBase : String) (i : ℕ) (o : UpstreamItem) :
    List ResponsesStreamEvent :=
  let item := startItem idBase i o
  (match o.kind with
    | .thinking => [⟨.reasoningPartAdded respID item.itemID i, 0⟩]
    | .text => [⟨.contentPartAdded respID item.itemID i, 0⟩]
    | .redactedThinking | .toolUse => []) ++
  o.deltas.flatMap (deltaEvents respID item) ++
  match o.kind with
    | .thinking =>
      [⟨.reasoningTextDone respID item.itemID i o.content, 0⟩,
        ⟨.reasoningPartDone respID item.itemID i o.content, 0⟩]
    | .redactedThinking => []
    | .text =>
      [⟨.outputTextDone respID item.itemID i o.content, 0⟩,
        ⟨.contentPartDone respID item.itemID i o.content, 0⟩]
    | .toolUse => [⟨.argumentsDone respID item.itemID none i o.content, 0⟩]

def itemEvents (respID idBase : String) (i : ℕ) (o : UpstreamItem) : List ResponsesStreamEvent :=
  ⟨.outputItemAdded respID i (openItem (startItem idBase i o)), 0⟩ ::
    (middleEvents respID idBase i o ++
      [⟨.outputItemDone respID i (doneItem (finalItem idBase i o)), 0⟩])

/-- The machine after a block that became an item. -/
def record (index : ℤ) (o : UpstreamItem) (s : MessagesToResponsesStream) :
    MessagesToResponsesStream :=
  let item := finalItem s.idBase s.nextOutput o
  { putItem index { item with closed := true } s with
    nextOutput := s.nextOutput + 1
    completed := s.completed ++ [doneItem item] }

lemma item_start {o : UpstreamItem} (ho : b.item = some o) :
    b.block.item [] = some { o with deltas := [] } ∧ o.deltas = b.deltas := by
  unfold item at ho
  cases hb : b.block with
  | other => simp [hb, UpstreamBlock.item] at ho
  | _ =>
    rw [hb] at ho
    obtain rfl := Option.some.inj ho
    exact ⟨rfl, rfl⟩

variable {s : MessagesToResponsesStream}

lemma feedEvent_start {ix : ℤ} {o : UpstreamItem}
    (ho : block.item [] = some { o with deltas := [] })
    (hs : s.started = true) :
    feedEvent (.contentBlockStart ix block) s =
      (⟨.outputItemAdded s.respID s.nextOutput
          (openItem (startItem s.idBase s.nextOutput o)), 0⟩ ::
        (match o.kind with
          | .thinking => [⟨.reasoningPartAdded s.respID
              (startItem s.idBase s.nextOutput o).itemID s.nextOutput, 0⟩]
          | .text => [⟨.contentPartAdded s.respID
              (startItem s.idBase s.nextOutput o).itemID s.nextOutput, 0⟩]
          | .redactedThinking | .toolUse => []),
        putItem ix (startItem s.idBase s.nextOutput o)
          { s with nextOutput := s.nextOutput + 1 }) := by
  dsimp only [feedEvent]
  rw [ho]
  dsimp only [emitItemAdded]
  rw [emitStarted, if_pos (by exact hs)]
  rfl

lemma feedEvent_stop {item : ResponsesStreamItem} (ho : item.closed = false)
    (s : MessagesToResponsesStream) :
    feedEvent (.contentBlockStop ix) (putItem ix item s) =
      (closingEvents s.respID item,
        { putItem ix { item with closed := true } s with
          completed := s.completed ++ [doneItem item] }) := by
  dsimp only [feedEvent]
  rw [lookup_putItem]
  dsimp only [closeItem]
  rw [ho, if_neg (by simp), putItem_putItem]
  rfl

lemma chainAll_block {o : UpstreamItem} (ho : b.item = some o)
    (ht : s.started = true) :
    chainAll feedEvent b.events s =
      (itemEvents s.respID s.idBase s.nextOutput o, record b.index o s) := by
  obtain ⟨hs, hd⟩ := item_start ho
  have hf : b.deltas.foldl grow (startItem s.idBase s.nextOutput o) =
      finalItem s.idBase s.nextOutput o := by
    rw [foldl_grow, ← hd]
    simp [finalItem, UpstreamItem.content, UpstreamItem.sign, startItem]
  rw [events, chainAll, chain, feedEvent_start hs ht]
  rw [chainAll_append, chainAll_deltas, chain, hf]
  dsimp only [chainAll, chain]
  rw [feedEvent_stop _ rfl, ← hd]
  refine Prod.ext ?_ rfl
  cases o with
  | mk kind => cases kind <;> simp [itemEvents, middleEvents, closingEvents, finalItem, startItem]

lemma chainAll_block_other (ho : b.item = none)
    (hn : s.items.lookup b.index = none) : chainAll feedEvent b.events s = ([], s) := by
  have hd : ∀ ds : List UpstreamDelta,
      chainAll feedEvent (ds.map (.contentBlockDelta b.index)) s = ([], s) := by
    intro ds
    induction ds with
    | nil => rfl
    | cons delta rest ih =>
      have hl : feedEvent (.contentBlockDelta b.index delta) s = ([], s) := by
        simp [feedEvent, hn]
      rw [map_cons, chainAll, chain, hl, ih]
      rfl
  have ht : feedEvent (.contentBlockStart b.index b.block) s = ([], s) := by
    unfold item at ho
    cases hb : b.block <;> simp_all [UpstreamBlock.item, feedEvent]
  have hs : feedEvent (.contentBlockStop b.index) s = ([], s) := by
    simp [feedEvent, hn]
  rw [events, chainAll, chain, ht, chainAll_append, chain, hd]
  dsimp only [chainAll, chain]
  rw [hs]
  rfl

/-! ## All blocks -/

/-- The items of the blocks, with the output indices from `n` on. -/
def numbered (n : ℕ) (blocks : List SentBlock) : List (UpstreamItem × ℕ) :=
  (blocks.filterMap SentBlock.item).zipIdx n

/-- The machine has recorded what it had before and the items of `blocks`. -/
structure Recorded (blocks : List SentBlock) (s s' : MessagesToResponsesStream) : Prop where
  respID : s'.respID = s.respID
  completed : s'.completed = s.completed ++
    (numbered s.nextOutput blocks).map fun o => doneItem (finalItem s.idBase o.2 o.1)
  closed : (∀ entry ∈ s.items, entry.2.closed = true) → ∀ entry ∈ s'.items, entry.2.closed = true

lemma lookup_record {ix ix' : ℤ} (hn : ix' ≠ ix) (o : UpstreamItem)
    (s : MessagesToResponsesStream) :
    (record ix o s).items.lookup ix' = s.items.lookup ix' := by
  have hf : ∀ xs : List (ℤ × ResponsesStreamItem),
      (xs.filter fun entry => entry.1 ≠ ix).lookup ix' = xs.lookup ix' := by
    intro xs
    induction xs with
    | nil => rfl
    | cons entry rest ih =>
      rw [filter_cons]
      by_cases he : entry.1 = ix
      · have hb : (ix' == entry.1) = false := by
          rw [he]
          exact beq_eq_false_iff_ne.mpr hn
        rw [if_neg (by simp [he]), ih, lookup_cons, hb]
      · rw [if_pos (by simp [he]), lookup_cons, lookup_cons, ih]
  have hb : (ix' == ix) = false := beq_eq_false_iff_ne.mpr hn
  simp only [record, putItem]
  rw [lookup_cons, hb]
  exact hf s.items

lemma closed_record {ix : ℤ} {o : UpstreamItem} {s : MessagesToResponsesStream}
    (hc : ∀ entry ∈ s.items, entry.2.closed = true) :
    ∀ entry ∈ (record ix o s).items, entry.2.closed = true := by
  intro entry he
  rcases mem_cons.mp he with rfl | he
  · rfl
  · exact hc entry (mem_of_mem_filter he)

lemma chainAll_blocks (bs : List SentBlock) {s : MessagesToResponsesStream}
    (hs : s.started = true) (hn : ∀ b ∈ bs, s.items.lookup b.index = none)
    (hi : (bs.map index).Nodup) :
    (chainAll feedEvent (bs.flatMap events) s).1 =
        (numbered s.nextOutput bs).flatMap (fun o => itemEvents s.respID s.idBase o.2 o.1) ∧
      Recorded bs s (chainAll feedEvent (bs.flatMap events) s).2 := by
  induction bs generalizing s with
  | nil => exact ⟨rfl, rfl, by simp [numbered, chainAll], fun h => h⟩
  | cons b rest ih =>
    rw [map_cons, nodup_cons] at hi
    rw [flatMap_cons, chainAll_append, chain]
    cases ho : b.item with
    | none =>
      rw [chainAll_block_other ho (hn b mem_cons_self)]
      have hm : numbered s.nextOutput (b :: rest) = numbered s.nextOutput rest := by
        simp [numbered, ho]
      obtain ⟨he, hr⟩ := ih hs
        (fun b' hb' => hn b' (mem_cons_of_mem _ hb')) hi.2
      refine ⟨?_, hr.respID, ?_, hr.closed⟩
      · rw [hm]
        exact he
      · rw [hm]
        exact hr.completed
    | some o =>
      rw [chainAll_block ho hs]
      have hm : numbered s.nextOutput (b :: rest) =
          (o, s.nextOutput) :: numbered (s.nextOutput + 1) rest := by
        simp [numbered, ho]
      have hrs : ∀ b' ∈ rest, (record b.index o s).items.lookup b'.index = none := by
        intro b' hb'
        have hne : b'.index ≠ b.index := by
          intro hq
          exact hi.1 (hq ▸ mem_map_of_mem hb')
        rw [lookup_record hne]
        exact hn b' (mem_cons_of_mem _ hb')
      obtain ⟨he, hr⟩ := ih (s := record b.index o s) hs hrs hi.2
      refine ⟨?_, hr.respID, ?_, fun h => hr.closed (closed_record h)⟩
      · rw [hm, flatMap_cons]
        rw [he]
        rfl
      · rw [hm, hr.completed, map_cons]
        exact append_assoc _ _ _

/-! ## Whole streams -/

/-- A machine that has seen nothing. -/
structure Fresh (s : MessagesToResponsesStream) : Prop where
  started : s.started = false
  items : s.items = []
  nextOutput : s.nextOutput = 0
  completed : s.completed = []

variable {s : MessagesToResponsesStream}

lemma noteMessage_fresh (msg : Fields) (hs : Fresh s) :
    Fresh (noteMessage msg s) := by
  unfold noteMessage
  dsimp only
  split_ifs <;> cases msg.object? "usage" <;> exact ⟨hs.1, hs.2, hs.3, hs.4⟩

lemma emitStarted_new (hs : s.started = false) :
    ∃ start, emitStarted s =
      ([⟨.created start, 0⟩, ⟨.inProgress start, 0⟩], { s with started := true }) := by
  unfold emitStarted
  rw [hs, if_neg (by simp)]
  exact ⟨_, rfl⟩

lemma chainAll_messageDelta (ds : List Fields) (s : MessagesToResponsesStream) :
    ∃ s', chainAll feedEvent (ds.map .messageDelta) s = ([], s') ∧
      s'.items = s.items ∧ s'.completed = s.completed := by
  induction ds generalizing s with
  | nil => exact ⟨s, rfl, rfl, rfl⟩
  | cons ev rest ih =>
    obtain ⟨s', hr, hi, hc⟩ := ih (noteDelta ev s)
    have hn : (noteDelta ev s).items = s.items ∧ (noteDelta ev s).completed = s.completed := by
      unfold noteDelta
      split <;> exact ⟨rfl, rfl⟩
    refine ⟨s', ?_, hi.trans hn.1, hc.trans hn.2⟩
    rw [map_cons, chainAll, chain]
    dsimp only [feedEvent]
    rw [hr]
    rfl

lemma feedEvent_messageStop (hc : ∀ entry ∈ s.items, entry.2.closed = true) :
    feedEvent .messageStop s = (finalEvents s, s) := by
  have hs : sortedOpenItems s = [] := by
    have hn : (s.items.filter fun entry => !entry.2.closed) = [] := by
      rw [filter_eq_nil_iff]
      intro entry he
      simp [hc entry he]
    rw [sortedOpenItems, hn]
    rfl
  dsimp only [feedEvent]
  rw [hs]
  rfl

/-- The events of a stream of the protocol, and the response that they end with. -/
lemma chainAll_conformant (msg : Fields) {bs : List SentBlock} (ds : List Fields)
    (hi : (bs.map index).Nodup)
    (hs : Fresh s) :
    ∃ start respID idBase response,
      (chainAll feedEvent (.messageStart msg :: (bs.flatMap events ++
        (ds.map .messageDelta ++ [.messageStop]))) s).1 =
          [⟨.created start, 0⟩, ⟨.inProgress start, 0⟩] ++
            (numbered 0 bs).flatMap (fun o => itemEvents respID idBase o.2 o.1) ++
            [⟨.done response, 0⟩, ⟨.completed response, 0⟩] ∧
      response.output = (numbered 0 bs).map fun o => doneItem (finalItem idBase o.2 o.1) := by
  have hf := noteMessage_fresh msg hs
  set s₀ := noteMessage msg s with hs₀
  set s₁ : MessagesToResponsesStream := { s₀ with started := true } with hs₁
  obtain ⟨he, hr⟩ := chainAll_blocks bs (s := s₁) rfl
    (fun b _ => by simp [hs₁, hf.items]) hi
  obtain ⟨s₃, hrun₃, hitems₃, hcompleted₃⟩ := chainAll_messageDelta ds
    (chainAll feedEvent (bs.flatMap events) s₁).2
  have hclosed₃ : ∀ entry ∈ s₃.items, entry.2.closed = true := by
    rw [hitems₃]
    exact hr.closed (by simp [hs₁, hf.items])
  obtain ⟨start, ht⟩ : ∃ start, feedEvent (.messageStart msg) s =
      ([⟨.created start, 0⟩, ⟨.inProgress start, 0⟩], s₁) := emitStarted_new hf.started
  refine ⟨start, s₁.respID, s₁.idBase, finalResponse "completed" s₃, ?_, ?_⟩
  · rw [chainAll, chain, ht]
    rw [chainAll_append, chain, chainAll_append, chain, hrun₃]
    dsimp only [chainAll, chain]
    rw [feedEvent_messageStop hclosed₃, he]
    simp [hs₁, hf.nextOutput, finalEvents]
  · rw [show (finalResponse "completed" s₃).output = s₃.completed from rfl, hcompleted₃,
      hr.completed]
    simp [hs₁, hf.nextOutput, hf.completed]

/-! ## What the events of the items look like -/

/-- The deltas of an item are of its kind. -/
def Fits (o : UpstreamItem) : Prop :=
  ∀ delta ∈ o.deltas, match o.kind, delta with
    | .thinking, .thinking _ | .thinking, .signature _ | .text, .text _
    | .toolUse, .inputJSON _ | _, .other => True
    | _, _ => False

lemma fits_of_takes {o : UpstreamItem} (ho : b.item = some o)
    (hk : ∀ delta ∈ b.deltas, b.block.Takes delta) : Fits o := by
  obtain ⟨-, he⟩ := item_start ho
  intro delta hd
  rw [he] at hd
  have ht := hk delta hd
  unfold item at ho
  cases hb : b.block with
  | other => simp [hb, UpstreamBlock.item] at ho
  | _ =>
    rw [hb] at ho ht
    obtain rfl := Option.some.inj ho
    cases delta <;> exact ht

variable {respID idBase : String} {i : ℕ} {o : UpstreamItem}

lemma deltaEvents_refers (ho : Fits o) {delta : UpstreamDelta} (hd : delta ∈ o.deltas) :
    ∀ e ∈ deltaEvents respID (startItem idBase i o) delta, e.event.mark = some (.uses i e.event) ∧
      (openItem (startItem idBase i o)).Refers e.event := by
  have hf := ho delta hd
  intro e he
  unfold deltaEvents at he
  split_ifs at he
  · simp at he
  · cases o with
    | mk kind callID name ds sig =>
      cases kind <;> cases delta <;> simp_all [startItem, openItem, OutputItem.Refers, mark]

lemma middleEvents_refers (ho : Fits o) :
    ∀ e ∈ middleEvents respID idBase i o, e.event.mark = some (.uses i e.event) ∧
      (openItem (startItem idBase i o)).Refers e.event := by
  intro e he
  unfold middleEvents at he
  rcases mem_append.mp he with he | he
  · rcases mem_append.mp he with he | he
    · cases o with
      | mk kind callID name ds sig =>
        cases kind <;> simp_all [startItem, openItem, OutputItem.Refers, mark]
    · obtain ⟨delta, hd, he⟩ := mem_flatMap.mp he
      exact deltaEvents_refers ho hd e he
  · cases o with
    | mk kind callID name ds sig =>
      cases kind <;> simp_all [startItem, openItem, OutputItem.Refers, mark]
      all_goals rcases he with rfl | rfl <;> simp

lemma same_final (idBase : String) (i : ℕ) (o : UpstreamItem) :
    (openItem (startItem idBase i o)).Same (doneItem (finalItem idBase i o)) := by
  cases o with
  | mk kind callID name ds sig =>
    cases kind <;> simp [openItem, doneItem, startItem, finalItem, OutputItem.Same]

lemma join_deltaEvents (j : ℕ) (delta : UpstreamDelta) (item : ResponsesStreamItem) :
    String.join ((deltaEvents respID item delta).filterMap fun e => e.event.deltaTo j) =
      if item.outputIndex = j then delta.content else "" := by
  unfold deltaEvents
  split_ifs with he hj hj
  · rw [he]
    rfl
  · rfl
  · cases delta <;> simp_all [deltaTo, UpstreamDelta.content]
  · cases delta <;> simp_all [deltaTo, UpstreamDelta.content]

lemma marks_itemEvents (ho : Fits o) :
    (itemEvents respID idBase i o).filterMap (fun e => e.event.mark) =
      .opens i (openItem (startItem idBase i o)) ::
        (((middleEvents respID idBase i o).map ResponsesStreamEvent.event).map (.uses i) ++
          [.closes i (doneItem (finalItem idBase i o))]) := by
  have hm : (middleEvents respID idBase i o).filterMap (fun e => e.event.mark) =
      (middleEvents respID idBase i o).map fun e => .uses i e.event := by
    rw [filterMap_congr fun e he => (middleEvents_refers ho e he).1]
    exact congrFun filterMap_eq_map _
  rw [itemEvents, ← singleton_append, filterMap_append, filterMap_append, hm, map_map]
  rfl

variable (respID idBase) in
/-- The items of a stream are opened, used and closed one after another. -/
lemma trace_itemEvents {outs : List UpstreamItem} (hf : ∀ o ∈ outs, Fits o)
    {s : ItemStreams.Ledger OutputItem} (hs : s.closed = range s.items.length) :
    ∃ items, items.length = outs.length ∧
      Trace (ItemStreams.Step OutputItem.Refers OutputItem.Same) s
        (((outs.zipIdx s.items.length).flatMap fun o =>
          itemEvents respID idBase o.2 o.1).filterMap fun e => e.event.mark)
        { items := s.items ++ items, closed := range (s.items ++ items).length } := by
  induction outs generalizing s with
  | nil =>
    refine ⟨[], rfl, ?_⟩
    rw [append_nil, ← hs]
    exact .nil
  | cons o rest ih =>
    have ho := hf o mem_cons_self
    have hu : ∀ e ∈ (middleEvents respID idBase s.items.length o).map
        ResponsesStreamEvent.event, (openItem (startItem idBase s.items.length o)).Refers e := by
      intro e hm
      obtain ⟨e, he, rfl⟩ := mem_map.mp hm
      exact (middleEvents_refers ho e he).2
    have hl := Run.life hs hu (same_final idBase s.items.length o)
    obtain ⟨items, hn, ht⟩ := ih (fun o' ho' => hf o' (mem_cons_of_mem _ ho'))
      (s := { items := s.items ++ [openItem (startItem idBase s.items.length o)]
              closed := range (s.items ++ [_]).length }) rfl
    refine ⟨openItem (startItem idBase s.items.length o) :: items, by simp [hn], ?_⟩
    rw [zipIdx_cons, flatMap_cons, filterMap_append, marks_itemEvents ho]
    simpa using hl.append ht

lemma join_itemEvents (j : ℕ) :
    String.join ((itemEvents respID idBase i o).filterMap fun e => e.event.deltaTo j) =
      if i = j then o.content else "" := by
  have hd : String.join ((o.deltas.flatMap
      (deltaEvents respID (startItem idBase i o))).filterMap fun e => e.event.deltaTo j) =
        if i = j then o.content else "" := by
    rw [join_filterMap_flatMap]
    simp only [join_deltaEvents]
    by_cases hj : i = j
    · simp [startItem, hj, UpstreamItem.content]
    · simp [startItem, hj, join_replicate_empty]
  cases o with
  | mk kind callID name ds sig =>
    cases kind <;>
      simpa [itemEvents, middleEvents, deltaTo, filterMap_append, filterMap_cons] using hd

/-! ## Well-formed streams -/

/-- The item says what the upstream has sent. -/
def Holds (o : UpstreamItem) (item : OutputItem) : Prop :=
  item.content = o.content ∧
    match o.kind, item with
    | .thinking, .reasoning _ _ encryptedContent _
    | .redactedThinking, .reasoning _ _ encryptedContent _ => encryptedContent = o.sign
    | .text, .message _ _ _ => True
    | .toolUse, .functionCall _ callID _ name toolNamespace _ =>
      callID = o.callID ∧ (toolNamespace, name) = splitChatToolName o.name
    | _, _ => False

lemma holds_doneItem (idBase : String) (i : ℕ) (o : UpstreamItem) :
    Holds o (doneItem (finalItem idBase i o)) := by
  cases o with
  | mk kind callID name ds sig =>
    cases kind <;> simp only [Holds, doneItem, finalItem, startItem, OutputItem.content]
    · split_ifs with he <;> simp [he]
    · split_ifs with he <;> simp [he]
    · simp
    · simp

/-- What the client gets for the items `outputs` of the upstream. -/
structure WellFormed (outputs : List UpstreamItem) (events : List ResponsesEvent) : Prop where
  /-- every item is added, used and completed once, under an index of its own -/
  items : ItemStreams.Complete OutputItem.Refers OutputItem.Same outputs.length
    (events.filterMap ResponsesEvent.mark)
  /-- the items are completed in the order in which they were added -/
  order : (events.filterMap ResponsesEvent.mark).filterMap Mark.closed =
    List.range outputs.length
  /-- one terminal pair stands at the end, with the items at their indices -/
  ending : ∃ front response, events = front ++ [.done response, .completed response] ∧
    (∀ e ∈ front, e.type ∉ responsesTerminals) ∧
    response.output.length = outputs.length ∧
    (∀ respID i item, .outputItemAdded respID i item ∈ front →
      ∃ final, response.output[i]? = some final ∧ item.Same final) ∧
    ∀ i o, outputs[i]? = some o → ∃ final, response.output[i]? = some final ∧ Holds o final ∧
      .join (front.filterMap (ResponsesEvent.deltaTo i)) = final.content

lemma type_of_mark {e : ResponsesEvent} {m : Mark OutputItem ResponsesEvent OutputItem}
    (he : e.mark = some m) : e.type ∉ responsesTerminals := by
  cases e <;> simp_all [mark, type, responsesTerminals]

lemma mem_itemEvents (ho : Fits o) (he : e ∈ itemEvents respID idBase i o) :
    e.event.mark = some (.opens i (openItem (startItem idBase i o))) ∨
      e.event.mark = some (.uses i e.event) ∨
      e.event.mark = some (.closes i (doneItem (finalItem idBase i o))) := by
  rcases mem_cons.mp he with rfl | he
  · exact .inl rfl
  · rcases mem_append.mp he with he | he
    · exact .inr (.inl (middleEvents_refers ho e he).1)
    · obtain rfl := mem_singleton.mp he
      exact .inr (.inr rfl)

lemma type_itemEvents (ho : Fits o) (he : e ∈ itemEvents respID idBase i o) :
    e.event.type ∉ responsesTerminals := by
  rcases mem_itemEvents ho he with hm | hm | hm <;> exact type_of_mark hm

lemma added_itemEvents (ho : Fits o) {respID' : String} {j : ℕ} {item : OutputItem}
    (he : e ∈ itemEvents respID idBase i o) (ha : e.event = .outputItemAdded respID' j item) :
    j = i ∧ item = openItem (startItem idBase i o) := by
  have hm := mem_itemEvents ho he
  rw [ha] at hm
  simpa [mark] using hm

/-- The events of a response: its start, those of its items, and its end. -/
def responseEvents (start response : ResponseObject) (written : List ResponsesStreamEvent) :
    List ResponsesEvent :=
  [.created start, .inProgress start] ++ written.map ResponsesStreamEvent.event ++
    [.done response, .completed response]

variable (respID) (start : ResponseObject) in
lemma wellFormed_of_outputs {outs : List UpstreamItem} (ht : ∀ o ∈ outs, Fits o)
    {response : ResponseObject} (hot : response.output =
      outs.zipIdx.map fun o => doneItem (finalItem idBase o.2 o.1)) :
    WellFormed outs (responseEvents start response
      (outs.zipIdx.flatMap fun o => itemEvents respID idBase o.2 o.1)) := by
  set written := outs.zipIdx.flatMap fun o => itemEvents respID idBase o.2 o.1 with hw
  have hmm : ∀ e ∈ written, ∃ o i, outs[i]? = some o ∧ Fits o ∧
      e ∈ itemEvents respID idBase i o := by
    intro e he
    obtain ⟨⟨o, i⟩, hm, he⟩ := mem_flatMap.mp he
    have hi := mk_mem_zipIdx_iff_getElem?.mp hm
    exact ⟨o, i, hi, ht o (mem_of_getElem? hi), he⟩
  have hf : ∀ i o, outs[i]? = some o →
      response.output[i]? = some (doneItem (finalItem idBase i o)) := by
    intro i o hi
    simp [hot, getElem?_zipIdx, hi]
  obtain ⟨xs, hl, htr⟩ :=
    trace_itemEvents respID idBase ht (s := {}) rfl
  have hr : (responseEvents start response written).filterMap mark =
      written.filterMap fun e => e.event.mark := by
    rw [responseEvents, filterMap_append, filterMap_append, filterMap_map]
    exact append_nil _
  refine ⟨?_, ?_, _, response, rfl, ?_, ?_, ?_, ?_⟩
  · rw [hr, ← hl]
    exact Run.complete htr fun i hi => by simpa using hi
  · rw [hr, ← hl]
    exact Run.closed_eq htr
  · intro e he
    rcases mem_append.mp he with he | he
    · simp only [mem_cons, not_mem_nil, or_false] at he
      rcases he with rfl | rfl <;> simp [type, responsesTerminals]
    · obtain ⟨e', he', rfl⟩ := mem_map.mp he
      obtain ⟨o, i, -, ho, hm⟩ := hmm e' he'
      exact type_itemEvents ho hm
  · simp [hot]
  · intro respID' i item he
    rcases mem_append.mp he with he | he
    · simp at he
    · obtain ⟨e, he, ha⟩ := mem_map.mp he
      obtain ⟨o, j, hj, ho, he⟩ := hmm e he
      obtain ⟨rfl, rfl⟩ := added_itemEvents ho he ha
      exact ⟨_, hf i o hj, same_final idBase i o⟩
  · intro i o hi
    refine ⟨_, hf i o hi, holds_doneItem idBase i o, ?_⟩
    rw [(holds_doneItem idBase i o).1, filterMap_append, filterMap_map]
    have hn := join_zipIdx_ite (n := 0) UpstreamItem.content hi
    have hp := join_filterMap_flatMap (fun o : UpstreamItem × ℕ =>
      itemEvents respID idBase o.2 o.1) (fun e => e.event.deltaTo i) outs.zipIdx
    simp only [join_itemEvents] at hp
    rw [Nat.zero_add] at hn
    exact hp.trans hn

/-- The frames of a stream, read as events; pings do nothing. -/
lemma feedAll_eq {d : Decoders} {fs : List Bytes}
    (hw : ∀ data ∈ fs, upstreamEvent d data ≠ .broken) (s : MessagesToResponsesStream) :
    chainAll (feed d) fs s =
      chainAll feedEvent ((fs.map (upstreamEvent d)).filter fun e => !e.isPing) s := by
  induction fs generalizing s with
  | nil => rfl
  | cons data rest ih =>
    have hr := fun s => ih (fun data' hm => hw data' (mem_cons_of_mem _ hm)) s
    rw [chainAll, chain, feed_eq_feedEvent rfl (hw data mem_cons_self) s, hr,
      map_cons, filter_cons]
    cases he : upstreamEvent d data with
    | ping | _ => rfl

/-- A Messages stream that keeps to its protocol becomes a well-formed Responses stream. -/
theorem translated_responses_wellFormed (d : Decoders) (model : String) (createdAt : ℤ)
    {frames : List Bytes} {blocks : List SentBlock}
    (hframes : Conformant blocks (frames.map (upstreamEvent d))) :
    WellFormed (blocks.filterMap item)
      ((chainAll (feed d) frames { model := model, createdAt := createdAt }).1.map
        ResponsesStreamEvent.event) := by
  obtain ⟨msg, ds, -, hr⟩ := hframes.order
  have hw : ∀ data ∈ frames, upstreamEvent d data ≠ .broken := by
    intro data hd hbr
    have hm : UpstreamEvent.broken ∈
        (frames.map (upstreamEvent d)).filter fun e => !e.isPing :=
      mem_filter.mpr ⟨mem_map.mpr ⟨data, hd, hbr⟩, rfl⟩
    rw [hr] at hm
    simp [events] at hm
  obtain ⟨start, respID, idBase, response, he, ht⟩ := chainAll_conformant msg ds
    hframes.indices (s := { model := model, createdAt := createdAt }) ⟨rfl, rfl, rfl, rfl⟩
  rw [feedAll_eq hw, hr, he]
  have hf : ∀ o ∈ blocks.filterMap item, Fits o := by
    intro o ho
    obtain ⟨b, hb, ho⟩ := mem_filterMap.mp ho
    exact fits_of_takes ho (hframes.deltas b hb)
  have hl := wellFormed_of_outputs respID start hf ht
  simpa [responseEvents, numbered] using hl

def objectDecoders (objects : List (Bytes × Fields)) : Decoders :=
  { silentDecoders with object := fun data => objects.lookup data }

/-- A text in two deltas, with a ping between them, and a tool call. -/
def greeting : List (Bytes × Fields) :=
  [([0], [("type", .str "message_start"), ("message", .object [("id", .str "msg_1")])]),
    ([1], [("type", .str "content_block_start"), ("index", .number 0),
      ("content_block", .object [("type", .str "text")])]),
    ([2], [("type", .str "content_block_delta"), ("index", .number 0),
      ("delta", .object [("type", .str "text_delta"), ("text", .str "Hel")])]),
    ([3], [("type", .str "ping")]),
    ([4], [("type", .str "content_block_delta"), ("index", .number 0),
      ("delta", .object [("type", .str "text_delta"), ("text", .str "lo")])]),
    ([5], [("type", .str "content_block_stop"), ("index", .number 0)]),
    ([6], [("type", .str "content_block_start"), ("index", .number 1), ("content_block",
      .object [("type", .str "tool_use"), ("id", .str "toolu_1"), ("name", .str "time")])]),
    ([7], [("type", .str "content_block_delta"), ("index", .number 1), ("delta",
      .object [("type", .str "input_json_delta"), ("partial_json", .str "\x7b\x7d")])]),
    ([8], [("type", .str "content_block_stop"), ("index", .number 1)]),
    ([9], [("type", .str "message_delta")]),
    ([10], [("type", .str "message_stop")])]

def greetingBlocks : List SentBlock :=
  [⟨0, .text, [.text "Hel", .text "lo"]⟩, ⟨1, .toolUse "toolu_1" "time", [.inputJSON "\x7b\x7d"]⟩]

theorem greeting_wellFormed :
    WellFormed [{ kind := .text, deltas := [.text "Hel", .text "lo"] },
        { kind := .toolUse, callID := "toolu_1", name := "time",
          deltas := [.inputJSON "\x7b\x7d"] }]
      ((chainAll (feed (objectDecoders greeting)) (greeting.map Prod.fst)
        { model := "m", createdAt := 0 }).1.map ResponsesStreamEvent.event) := by
  have hc : Conformant greetingBlocks
      ((greeting.map Prod.fst).map (upstreamEvent (objectDecoders greeting))) := by
    refine ⟨⟨_, [[("type", .str "message_delta")]], cons_ne_nil _ _, rfl⟩, by decide, by decide,
      by decide, ?_⟩
    intro b hb delta hd
    rcases mem_pair.mp hb with rfl | rfl
    · rcases mem_pair.mp hd with rfl | rfl <;> trivial
    · obtain rfl := mem_singleton.mp hd
      trivial
  exact translated_responses_wellFormed (objectDecoders greeting) "m" 0 hc

end MessagesToResponsesStream
end TokenliveGateway
