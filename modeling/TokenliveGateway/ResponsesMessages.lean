import Mathlib.Data.List.Chain
import TokenliveGateway.ResponsesChat

/-!
# Responses requests as Messages requests

`ResponsesRequestToMessages` turns the items of a Responses input into blocks, one after the
other. A block joins the last message if that has its role, and opens a message otherwise; a
thinking block goes to the front of the message. Messages therefore alternate, but the
thinking blocks of one turn come in reverse.
-/
namespace TokenliveGateway.ResponsesMessages
open List GoStrings

inductive Role where
  | user
  | assistant
  deriving DecidableEq

inductive ImageSource where
  | base64 (mediaType data : String)
  | url (url : String)

/-- A block of what is said. -/
inductive Part where
  | text (text : String)
  | image (source : ImageSource)

inductive Block where
  | part (part : Part)
  | toolUse (id name : String) (input : Json)
  | toolResult (toolUseID content : String)
  | thinking (thinking signature : String)

structure Message where
  role : Role
  content : List Block

/-- `json.Unmarshal` into an `interface{}`, and `%q`. -/
structure Codec where
  unmarshal : String → Option Json
  quote : String → String

/-! ## Items -/

/-- `strings.SplitN` into two parts. -/
def splitTwo (sep : List Char) : List Char → Option (String × String)
  | [] => none
  | c :: rest =>
    if sep.isPrefixOf (c :: rest) then some ("", .ofList ((c :: rest).drop sep.length))
    else (splitTwo sep rest).map fun p => (.ofList (c :: p.1.toList), p.2)

def partsText (parts : List Json) : String :=
  "\n".intercalate (parts.filterMap fun
    | .object part =>
      match part.lookup "text" with
      | some (.str text) => some text
      | _ => none
    | _ => none)

def extractResponsesText : Option Json → String
  | some (.str text) => text
  | some (.array parts) => partsText parts
  | _ => ""

/-- The blocks of an `input_image`, with warnings. -/
def imageParts (urlStr : String) : List Part × List String :=
  if hasPrefix urlStr "data:" then
    match splitTwo ";base64,".toList (trimFront urlStr "data:").toList with
    | some (mediaType, data) => ([.image (.base64 mediaType data)], [])
    | none => ([], [])
  else if hasPrefix urlStr "http://" || hasPrefix urlStr "https://" then
    ([.image (.url urlStr)], [])
  else if urlStr = "" then ([], [])
  else ([], ["input_image with unsupported source dropped"])

def contentPart (c : Codec) : Json → List Part × List String
  | .object pm =>
    let ptype := Fields.str pm "type"
    if ptype = "input_text" ∨ ptype = "output_text" ∨ ptype = "text" then
      (if Fields.str pm "text" = "" then [] else [.text (Fields.str pm "text")], [])
    else if ptype = "input_image" then imageParts (Fields.str pm "image_url")
    else ([], if ptype = "" then [] else ["content part " ++ c.quote ptype ++ " dropped"])
  | _ => ([], [])

def responsesContentToBlocks (c : Codec) : Option Json → List Part × List String
  | some (.str text) => (if text = "" then [] else [.text text], [])
  | some (.array parts) =>
    (parts.flatMap (contentPart c · |>.1), parts.flatMap (contentPart c · |>.2))
  | _ => ([], [])

def responsesReasoningToThinking (item : Fields) : List (Role × Block) :=
  if item.str "encrypted_content" = "" then []
  else [(.assistant,
    .thinking (partsText ((item.array? "summary").getD [])) (item.str "encrypted_content"))]

/-- A call with its name; `nil` arguments are an empty object. -/
def callBlock (c : Codec) (item : Fields) : Block :=
  let name := item.str "name"
  let input :=
    match c.unmarshal (item.str "arguments") with
    | some .null | none => .object []
    | some input => input
  .toolUse (normalizeToolUseID (responseItemCallID item))
    (if item.str "namespace" = "" then name else item.str "namespace" ++ "." ++ name)
    (if item.str "arguments" = "" then .object [] else input)

/-- What an item is turned into. -/
structure Converted where
  blocks : List (Role × Block) := []
  systemParts : List String := []
  warnings : List String := []

def messageBlocks (c : Codec) (item : Fields) : Converted :=
  let role := item.str "role"
  let said := responsesContentToBlocks c (item.lookup "content")
  if role = "system" ∨ role = "developer" then
    let text := extractResponsesText (item.lookup "content")
    { systemParts := if text = "" then [] else [text] }
  else if role = "user" then { blocks := said.1.map (.user, .part ·), warnings := said.2 }
  else if role = "assistant" then
    { blocks := said.1.map (.assistant, .part ·), warnings := said.2 }
  else { warnings := ["message item with unknown role " ++ c.quote role ++ " dropped"] }

/-- One round of the loop. -/
def itemBlocks (c : Codec) : Json → Converted
  | .object item =>
    let type := Fields.str item "type"
    if type = "message" ∨ type = "" ∧ Fields.str item "role" ≠ "" then messageBlocks c item
    else if type = "function_call" then
      if Fields.str item "name" = "" then
        { warnings := ["function_call item without name dropped"] }
      else { blocks := [(.assistant, callBlock c item)] }
    else if type = "function_call_output" then
      { blocks := [(.user, .toolResult (normalizeToolUseID (Fields.str item "call_id"))
        (extractResponsesText (item.lookup "output")))] }
    else if type = "reasoning" then { blocks := responsesReasoningToThinking item }
    else { warnings := ["input item type " ++ c.quote type ++ " dropped"] }
  | _ => {}

/-! ## Messages -/

/-- The last element is changed if it is one to join, and a new one follows it otherwise. -/
def joinLast {α : Type*} (joins : α → Bool) (join : α → α) (new : α) : List α → List α
  | [] => [new]
  | [last] => if joins last then [join last] else [last, new]
  | a :: b :: rest => a :: joinLast joins join new (b :: rest)

def Block.isThinking : Block → Bool
  | thinking _ _ => true
  | _ => false

def appendBlock (messages : List Message) (entry : Role × Block) : List Message :=
  joinLast (·.role = entry.1)
    (fun last => ⟨last.role,
      if entry.2.isThinking then entry.2 :: last.content else last.content ++ [entry.2]⟩)
    ⟨entry.1, [entry.2]⟩ messages

/-- What the items are turned into, one after the other. -/
def inputBlocks (c : Codec) (items : List Json) : List (Role × Block) :=
  items.flatMap fun item => (itemBlocks c item).blocks

def arrayMessages (c : Codec) (items : List Json) : List Message :=
  (inputBlocks c items).foldl appendBlock []

/-- `%T` of the values that are no input. -/
def typeName : Json → String
  | .bool _ => "bool"
  | .number _ => "float64"
  | .object _ => "map[string]interface \x7b\x7d"
  | _ => ""

def responsesInputToMessages (c : Codec) :
    Option Json → Except String (List Message × List String × List String)
  | none | some .null => .error "missing input"
  | some (.str s) =>
    if s = "" then .error "empty input" else .ok ([⟨.user, [.part (.text s)]⟩], [], [])
  | some (.array items) =>
    .ok (arrayMessages c items, items.flatMap (itemBlocks c · |>.systemParts),
      items.flatMap (itemBlocks c · |>.warnings))
  | some input => .error ("unsupported input type " ++ typeName input)

def responsesRequestToMessages (c : Codec) (payload : Fields) :
    Except String (List Message × List String) := do
  let (messages, sysParts, _) ← responsesInputToMessages c (payload.lookup "input")
  let instructions := payload.str "instructions"
  let systemParts := (if instructions = "" then [] else [instructions]) ++ sysParts
  match messages with
  | [] => .error "no convertible input messages"
  | first :: _ =>
    .ok (if first.role = .user then messages else ⟨.user, [.part (.text " ")]⟩ :: messages,
      systemParts)

/-! ## Turns -/

section JoinLast
variable {α β : Type*} {joins : α → Bool} {join : α → α} {new : α}

lemma map_joinLast (f : α → β) {joins' : β → Bool} {join' : β → β} {new' : β}
    (hj : ∀ a, joins' (f a) = joins a) (hjn : ∀ a, f (join a) = join' (f a))
    (hn : f new = new') (l : List α) :
    (joinLast joins join new l).map f = joinLast joins' join' new' (l.map f) := by
  fun_induction joinLast joins join new l with
  | case1 => simp [joinLast, hn]
  | case2 last h => simp [joinLast, hj, h, hjn]
  | case3 last h => simp [joinLast, hj, h, hn]
  | case4 a b rest ih => simpa [joinLast] using ih

lemma flatMap_joinLast (f : α → List β) {extra : List β} (hn : f new = extra)
    (hj : ∀ a, joins a = true → f (join a) = f a ++ extra) (l : List α) :
    (joinLast joins join new l).flatMap f = l.flatMap f ++ extra := by
  fun_induction joinLast joins join new l with
  | case1 => simp [hn]
  | case2 last h => simp [hj last h]
  | case3 last h => simp [hn]
  | case4 a b rest ih => simp [ih]

lemma forall_joinLast {P : α → Prop} (hn : P new) (hj : ∀ a, P (join a)) {l : List α}
    (hl : ∀ a ∈ l, P a) : ∀ a ∈ joinLast joins join new l, P a := by
  fun_induction joinLast joins join new l with
  | case1 => simpa using hn
  | case2 last h => simpa using hj last
  | case3 last h => simpa [hn] using hl
  | case4 a b rest ih =>
    rw [forall_mem_cons] at hl ⊢
    exact ⟨hl.1, ih hl.2⟩

lemma isChain_joinLast {R : α → α → Prop} (hn : ∀ a, joins a = false → R a new)
    (hj : ∀ a b, R a b → R a (join b)) {l : List α} (hl : l.IsChain R) :
    (joinLast joins join new l).IsChain R := by
  fun_induction joinLast joins join new l with
  | case1 => simp
  | case2 last h => simp
  | case3 last h => simpa using hn last (by simpa using h)
  | case4 a b rest ih =>
    rw [isChain_cons_cons] at hl
    have hr := ih hl.2
    cases rest with
    | nil =>
      rw [joinLast] at hr ⊢
      split_ifs at hr ⊢
      · exact isChain_cons_cons.mpr ⟨hj a b hl.1, hr⟩
      · exact isChain_cons_cons.mpr ⟨hl.1, hr⟩
    | cons d rest => exact isChain_cons_cons.mpr ⟨hl.1, hr⟩

end JoinLast

def takeBlock (turns : List Message) (entry : Role × Block) : List Message :=
  joinLast (·.role = entry.1) (fun last => ⟨last.role, last.content ++ [entry.2]⟩)
    ⟨entry.1, [entry.2]⟩ turns

/-- The blocks by turns, in their order. -/
def turns (entries : List (Role × Block)) : List Message := entries.foldl takeBlock []

def Message.entries (m : Message) : List (Role × Block) := m.content.map (m.role, ·)

/-- The message of a turn: its thinking blocks in reverse, and the others. -/
def Message.arranged (m : Message) : Message :=
  ⟨m.role, (m.content.filter Block.isThinking).reverse ++
    m.content.filter fun b => !b.isThinking⟩

structure Alternating (messages : List Message) : Prop where
  roles : messages.IsChain fun m m' => m.role ≠ m'.role
  filled : ∀ m ∈ messages, m.content ≠ []

lemma flatMap_takeBlock (ms : List Message) (entry : Role × Block) :
    (takeBlock ms entry).flatMap Message.entries = ms.flatMap Message.entries ++ [entry] := by
  refine flatMap_joinLast _ rfl (fun m hm => ?_) ms
  have hr : m.role = entry.1 := by simpa using hm
  simp [Message.entries, hr]

lemma map_takeBlock (ms : List Message) (entry : Role × Block) :
    (takeBlock ms entry).map Message.arranged = appendBlock (ms.map Message.arranged) entry := by
  unfold takeBlock appendBlock
  refine map_joinLast Message.arranged (fun m => ?_) (fun m => ?_) ?_ ms
  · rfl
  all_goals cases h : entry.2.isThinking <;> simp [Message.arranged, h]

lemma Alternating.takeBlock {ms : List Message} (h : Alternating ms) (entry : Role × Block) :
    Alternating (takeBlock ms entry) := by
  unfold ResponsesMessages.takeBlock
  refine ⟨isChain_joinLast (fun m hm => ?_) (fun _ _ hn => ?_) h.roles,
    forall_joinLast (by simp) (by simp) h.filled⟩
  · simpa using hm
  · exact hn

lemma turns_spec (entries : List (Role × Block)) :
    (turns entries).flatMap Message.entries = entries ∧ Alternating (turns entries) ∧
      entries.foldl appendBlock [] = (turns entries).map Message.arranged := by
  induction entries using List.reverseRecOn with
  | nil => exact ⟨rfl, ⟨isChain_nil, by simp [turns]⟩, rfl⟩
  | append_singleton entries entry ih =>
    obtain ⟨ha, halt, hm⟩ := ih
    have hs : turns (entries ++ [entry]) = ResponsesMessages.takeBlock (turns entries) entry :=
      foldl_append
    rw [hs, foldl_append, hm, flatMap_takeBlock, ha, map_takeBlock]
    exact ⟨rfl, halt.takeBlock entry, rfl⟩

lemma Alternating.arranged {ms : List Message} (h : Alternating ms) :
    Alternating (ms.map Message.arranged) := by
  refine ⟨(isChain_map _).mpr h.roles, fun m hm => ?_⟩
  obtain ⟨t, ht, rfl⟩ := mem_map.mp hm
  obtain ⟨b, hb⟩ := exists_mem_of_ne_nil _ (h.filled t ht)
  refine ne_nil_of_mem (a := b) ?_
  cases hh : b.isThinking <;> simp [Message.arranged, hb, hh]

lemma alternating_arrayMessages (c : Codec) (xs : List Json) :
    Alternating (arrayMessages c xs) := by
  obtain ⟨-, halt, hm⟩ := turns_spec (inputBlocks c xs)
  rw [arrayMessages, hm]
  exact halt.arranged

/-- The messages of every request that is accepted begin with the user, alternate, and have
content. -/
theorem request_messages_well_formed (c : Codec) (payload : Fields) (messages : List Message)
    (systemParts : List String)
    (h : responsesRequestToMessages c payload = .ok (messages, systemParts)) :
    (∃ first rest, messages = first :: rest ∧ first.role = .user) ∧
      (messages.IsChain fun m m' => m.role ≠ m'.role) ∧ ∀ m ∈ messages, m.content ≠ [] := by
  have ha : ∀ ms rest, responsesInputToMessages c (payload.lookup "input") = .ok (ms, rest) →
      Alternating ms := by
    intro ms rest hi
    unfold responsesInputToMessages at hi
    split at hi
    · cases hi
    · cases hi
    · split_ifs at hi
      cases hi
      exact ⟨by simp, by simp⟩
    · cases hi
      exact alternating_arrayMessages c _
    · cases hi
  unfold responsesRequestToMessages at h
  cases hi : responsesInputToMessages c (payload.lookup "input") with
  | error e => simp [hi, bind, Except.bind] at h
  | ok res =>
    obtain ⟨ms, parts⟩ := res
    obtain ⟨ho, hf⟩ := ha ms parts hi
    cases ms with
    | nil => simp [hi, bind, Except.bind] at h
    | cons first rest =>
      simp only [hi, bind, Except.bind, Except.ok.injEq, Prod.mk.injEq] at h
      obtain ⟨rfl, -⟩ := h
      split_ifs with hr
      · exact ⟨⟨first, rest, rfl, hr⟩, ho, hf⟩
      · refine ⟨⟨_, _, rfl, rfl⟩, isChain_cons_cons.mpr ⟨fun h => hr h.symm, ho⟩, ?_⟩
        exact forall_mem_cons.mpr ⟨by simp, hf⟩

/-- The messages of a call alone. The user's message in front of it is made up. -/
def loneCall : List Message :=
  [⟨.user, [.part (.text " ")]⟩, ⟨.assistant, [.toolUse "toolu_mock" "f" (.object [])]⟩]

theorem lone_call_well_formed : (∃ first rest, loneCall = first :: rest ∧ first.role = .user) ∧
      (loneCall.IsChain fun m m' => m.role ≠ m'.role) ∧ ∀ m ∈ loneCall, m.content ≠ [] :=
  request_messages_well_formed ⟨fun _ => none, id⟩
    [("input", .array [.object [("type", .str "function_call"), ("name", .str "f")]])] _ [] rfl

/-- In every message the thinking blocks come first, but in reverse: they have the order of
their items exactly if that is the same backwards, as it is for a single one. -/
theorem thinking_order_iff (c : Codec) (items : List Json) :
    ∃ turns : List Message, turns.flatMap Message.entries = inputBlocks c items ∧
      Alternating turns ∧
      arrayMessages c items = turns.map Message.arranged ∧ ∀ turn ∈ turns,
        (∃ others, turn.arranged.content = turn.arranged.content.filter Block.isThinking ++ others ∧
            ∀ b ∈ others, b.isThinking = false) ∧
        (turn.arranged.content.filter Block.isThinking = turn.content.filter Block.isThinking ↔
          (turn.content.filter Block.isThinking).reverse =
            turn.content.filter Block.isThinking) := by
  obtain ⟨ha, halt, hm⟩ := turns_spec (inputBlocks c items)
  refine ⟨_, ha, halt, hm, fun turn _ => ?_⟩
  have ht : turn.arranged.content.filter Block.isThinking =
      (turn.content.filter Block.isThinking).reverse := by
    simp [Message.arranged]
  rw [ht]
  exact ⟨⟨_, rfl, by simp⟩, Iff.rfl⟩

/-- Two reasoning items of one turn. -/
theorem thinking_reversed : arrayMessages ⟨fun _ => none, id⟩
        [.object [("type", .str "reasoning"), ("encrypted_content", .str "first")],
          .object [("type", .str "reasoning"), ("encrypted_content", .str "second")]] =
      [⟨.assistant, [.thinking "" "second", .thinking "" "first"]⟩] := by
  rfl

/-! ## Ids of calls -/

def Block.toolUseID : Block → Option String
  | toolUse id _ _ => some id
  | _ => none

def Block.toolResultID : Block → Option String
  | toolResult id _ => some id
  | _ => none

def callID : Json → Option String
  | .object item =>
    if Fields.str item "type" = "function_call" ∧ Fields.str item "name" ≠ "" then
      some (responseItemCallID item)
    else none
  | _ => none

def outputID : Json → Option String
  | .object item =>
    if Fields.str item "type" = "function_call_output" then some (Fields.str item "call_id")
    else none
  | _ => none

/-- What is left of an id without the prefixes. -/
def idCore (id : String) : String :=
  if id = "" then "mock"
  else if hasPrefix id "toolu_" then dropChars 6 id
  else trimFront (trimFront id "call_") "toolu-"

lemma normalizeToolUseID_eq (id : String) : normalizeToolUseID id = "toolu_" ++ idCore id := by
  unfold normalizeToolUseID idCore
  split_ifs with hi hp
  · rfl
  · rw [hasPrefix, isPrefixOf_iff_prefix] at hp
    obtain ⟨rest, hr⟩ := hp
    refine String.toList_injective ?_
    rw [String.toList_append, dropChars, ← hr]
    exact congrArg (_ ++ ·) String.toList_ofList.symm
  · rfl

lemma filterMap_arrayMessages {c : Codec} {f : Block → Option String}
    {g : Json → Option String} (hf : ∀ b, b.isThinking = true → f b = none)
    (hg : ∀ item, ((itemBlocks c item).blocks.filterMap fun e => f e.2) =
      ((g item).map normalizeToolUseID).toList) (xs : List Json) :
    ((arrayMessages c xs).flatMap Message.content).filterMap f =
      (xs.filterMap g).map normalizeToolUseID := by
  obtain ⟨ha, -, hm⟩ := turns_spec (inputBlocks c xs)
  have hr (m : Message) : m.arranged.content.filterMap f = m.entries.filterMap fun e => f e.2 := by
    have hn : (m.content.filter Block.isThinking).reverse.filterMap f = [] := by
      simpa using fun b _ => hf b
    rw [Message.arranged, filterMap_append, hn, nil_append, filterMap_filter, Message.entries,
      filterMap_map]
    refine filterMap_congr fun b _ => ?_
    cases hb : b.isThinking <;> simp [hb, hf]
  rw [arrayMessages, hm, flatMap_map, filterMap_flatMap]
  simp only [hr]
  rw [← filterMap_flatMap, ha, inputBlocks, filterMap_flatMap, map_filterMap,
    filterMap_eq_flatMap_toList]
  simp [hg]

lemma ids_of_item (c : Codec) (item : Json) :
    ((itemBlocks c item).blocks.filterMap fun e => e.2.toolUseID) =
        ((callID item).map normalizeToolUseID).toList ∧
      ((itemBlocks c item).blocks.filterMap fun e => e.2.toolResultID) =
        ((outputID item).map normalizeToolUseID).toList := by
  cases item with
  | object item =>
    simp only [itemBlocks, callID, outputID]
    by_cases hm : Fields.str item "type" = "message" ∨
        Fields.str item "type" = "" ∧ Fields.str item "role" ≠ ""
    · have hc : Fields.str item "type" ≠ "function_call" := fun heq => by simp [heq] at hm
      have ho : Fields.str item "type" ≠ "function_call_output" := fun heq => by simp [heq] at hm
      simp only [if_pos hm, hc, ho, messageBlocks, false_and, if_false]
      split_ifs <;> simp [Block.toolUseID, Block.toolResultID]
    · rw [if_neg hm]
      split_ifs <;> simp_all [callBlock, Block.toolUseID, Block.toolResultID,
        responsesReasoningToThinking]
  | _ => exact ⟨rfl, rfl⟩

def toolUseIDs (messages : List Message) : List String :=
  (messages.flatMap Message.content).filterMap Block.toolUseID

def toolResultIDs (messages : List Message) : List String :=
  (messages.flatMap Message.content).filterMap Block.toolResultID

end TokenliveGateway.ResponsesMessages
