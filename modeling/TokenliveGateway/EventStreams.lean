import TokenliveGateway.BlockFraming
import TokenliveGateway.GatewayContext

/-!
# Server-sent events

`SSEParser` cuts the bytes of a stream into events, fed with whatever a read
returns. An event is the data of one block, the lines of which start with `data:`.
However the bytes are cut into reads, the events are those of the whole text.

Texts are bytes. What `encoding/json` makes of a text is a parameter wherever a
function decodes one.
-/
namespace TokenliveGateway.EventStreams
open BlockFraming

def ascii (s : String) : Bytes := s.toList.map fun c => c.toNat.toUInt8

def hasPrefix (s front : Bytes) : Bool := front.isPrefixOf s

def contains (s part : Bytes) : Bool := s.tails.any part.isPrefixOf

def trimPrefix (s front : Bytes) : Bytes := if hasPrefix s front then s.drop front.length else s

/-- The UTF-8 encodings of the characters that `unicode.IsSpace` accepts. -/
def spaces : List Bytes :=
  [[0x09], [0x0A], [0x0B], [0x0C], [0x0D], [0x20], [0xC2, 0x85], [0xC2, 0xA0], [0xE1, 0x9A, 0x80],
    [0xE2, 0x80, 0xA8], [0xE2, 0x80, 0xA9], [0xE2, 0x80, 0xAF], [0xE2, 0x81, 0x9F],
    [0xE3, 0x80, 0x80]] ++
    (List.range 11).map fun i => [0xE2, 0x80, (0x80 + i).toUInt8]

/-- Drops leading members of `units`, at most `n` of them. -/
def dropUnits (units : List Bytes) : ℕ → Bytes → Bytes
  | 0, s => s
  | n + 1, s =>
    match units.find? (·.isPrefixOf s) with
    | none => s
    | some u => dropUnits units n (s.drop u.length)

def trimSpace (s : Bytes) : Bytes :=
  let s := dropUnits spaces s.length s
  (dropUnits (spaces.map List.reverse) s.length s.reverse).reverse

example : trimSpace (ascii " \r\n[DONE]\t ") = ascii "[DONE]" := by decide

structure TokenUsage where
  inputTokens : ℤ := 0
  outputTokens : ℤ := 0
  cachedTokens : ℤ := 0
  cacheCreationTokens : ℤ := 0
  deriving DecidableEq

/-- Positive counts replace the ones before. -/
def TokenUsage.update (u new : TokenUsage) : TokenUsage where
  inputTokens := if 0 < new.inputTokens then new.inputTokens else u.inputTokens
  outputTokens := if 0 < new.outputTokens then new.outputTokens else u.outputTokens
  cachedTokens := if 0 < new.cachedTokens then new.cachedTokens else u.cachedTokens
  cacheCreationTokens :=
    if 0 < new.cacheCreationTokens then new.cacheCreationTokens else u.cacheCreationTokens

/-- `SSEEvent`, with its token counts in one record. -/
structure SSEEvent where
  data : Bytes
  done : Bool := false
  usage : TokenUsage := {}
  deriving DecidableEq

def cr : UInt8 := 13
def lf : UInt8 := 10

/-- What a line adds to the data of its block: other fields than `data` are ignored,
and one leading space is not part of the value. -/
def dataLine (line : Bytes) : Option Bytes :=
  let line := if line.getLast? = some cr then line.dropLast else line
  if line = [] then none
  else if hasPrefix line (ascii "data:") then
    some (trimPrefix (trimPrefix line (ascii "data:")) (ascii " "))
  else none

/-- `parseBlock`, with `OpenAITokenExtractor` as `extract`. -/
def parseBlock (extract : Bytes → TokenUsage) (block : Bytes) : Option SSEEvent :=
  match (block.splitOn lf).filterMap dataLine with
  | [] => none
  | line :: lines =>
    let data := [lf].intercalate (line :: lines)
    if trimSpace data = ascii "[DONE]" then some { data := data, done := true }
    else some { data := data, usage := extract data }

example : parseBlock (fun _ => {}) (ascii "event: ping\ndata: a\ndata:  b") =
    some { data := ascii "a\n b" } := by decide

abbrev SSEParser := Framer UInt8

def newSSEParser : SSEParser := Framer.fresh

def SSEParser.feed (extract : Bytes → TokenUsage) (p : SSEParser) (data : Bytes) :
    List SSEEvent × SSEParser :=
  let r := Framer.feed cr lf p data
  (r.1.filterMap (parseBlock extract), r.2)

/-- One `Feed` after another. -/
def SSEParser.feedAll (extract : Bytes → TokenUsage) (p : SSEParser) :
    List Bytes → List SSEEvent × SSEParser
  | [] => ([], p)
  | data :: rest =>
    let r := SSEParser.feed extract p data
    let r' := SSEParser.feedAll extract r.2 rest
    (r.1 ++ r'.1, r'.2)

def eventsOf (extract : Bytes → TokenUsage) (text : Bytes) : List SSEEvent :=
  (SSEParser.feed extract newSSEParser text).1

section
variable (extract : Bytes → TokenUsage)

def SSEParser.after (text : Bytes) : SSEParser := Framer.after cr lf text

lemma cr_ne_lf : cr ≠ lf := by decide

lemma eventsOf_eq (text : Bytes) :
    eventsOf extract text = (cut lf (normalize cr lf text)).1.filterMap (parseBlock extract) :=
  rfl

@[simp] lemma eventsOf_nil : eventsOf extract [] = [] := rfl

lemma newSSEParser_eq : newSSEParser = SSEParser.after [] := rfl

/-- An event that is not the sentinel does not look like it. -/
lemma data_ne_done_of_mem_feed {p : SSEParser} {data : Bytes} {ev : SSEEvent}
    (he : ev ∈ (SSEParser.feed extract p data).1) (hn : ev.done = false) :
    ev.data ≠ ascii "[DONE]" := by
  obtain ⟨block, -, hp⟩ := List.mem_filterMap.mp he
  unfold parseBlock at hp
  split at hp
  · cases hp
  · dsimp only at hp
    split_ifs at hp with hs
    · cases hp
      cases hn
    · cases hp
      intro hd
      apply hs
      dsimp only at hd
      rw [hd]
      decide

/-- A read gives the events by which the text becomes longer. -/
lemma SSEParser.feed_after (text data : Bytes) :
    eventsOf extract text ++ (SSEParser.feed extract (SSEParser.after text) data).1 =
        eventsOf extract (text ++ data) ∧
      (SSEParser.feed extract (SSEParser.after text) data).2 = SSEParser.after (text ++ data) := by
  obtain ⟨hb, hf⟩ := Framer.feed_after cr_ne_lf text data
  refine ⟨?_, hf⟩
  rw [eventsOf_eq, eventsOf_eq, ← hb, List.filterMap_append]
  rfl

lemma SSEParser.feedAll_eq (p : SSEParser) (reads : List Bytes) :
    SSEParser.feedAll extract p reads =
      ((Framer.feedAll cr lf p reads).1.filterMap (parseBlock extract),
        (Framer.feedAll cr lf p reads).2) := by
  induction reads generalizing p with
  | nil => rfl
  | cons data rest ih =>
    simp [SSEParser.feedAll, SSEParser.feed, ih, Framer.feedAll]

/-- However a text is read, the events are those of the whole. -/
lemma SSEParser.feedAll_events (reads : List Bytes) :
    (SSEParser.feedAll extract newSSEParser reads).1 = eventsOf extract reads.flatten := by
  rw [SSEParser.feedAll_eq, eventsOf_eq]
  exact congrArg _ (Framer.feedAll_fresh cr_ne_lf reads)

end

end TokenliveGateway.EventStreams
