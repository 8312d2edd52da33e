import TokenliveGateway.GatewayContext
import TokenliveGateway.GoStrings
import TokenliveGateway.LabelledRuns

/-!
# Matching error messages

`FindMatchedErrorMessage` looks for a message as a substring and then as a regular
expression. The compiled expressions of a list are cached under the messages joined by
line breaks, and a match is answered by the message at its place. Lists whose messages
have line breaks can share a key, and one is then matched with the other's expressions.
`MatchErrorWithReason` decides by codes and messages whether an error counts for a policy.
-/
namespace TokenliveGateway.ErrorMessages
open GoStrings LabelledRuns Option

/-- A compiled expression. -/
abbrev Regexp := String → Bool

/-- `regexCache`; a message that does not compile is kept as `none`. -/
abbrev RegexCache := String → Option (List (Option Regexp))

/-- The loop over the expressions from place `i` on. An index out of range panics, which
is `none`. -/
def matchLoop (messages : List String) (errMsg : String) :
    ℕ → List (Option Regexp) → Option (Bool × String)
  | _, [] => some (false, "")
  | i, some re :: regexps =>
    if re errMsg then (messages[i]?).map fun em => (true, em)
    else matchLoop messages errMsg (i + 1) regexps
  | i, none :: regexps =>
    match messages[i]? with
    | none => none
    | some em => if contains errMsg em then some (true, em)
      else matchLoop messages errMsg (i + 1) regexps

/-- A call: the messages of the policy, and the error text. -/
structure Call where
  messages : List String
  errMsg : String

section Calls
variable (compile : String → Option Regexp)

def findMatchedErrorMessage (c : Call) (cache : RegexCache) :
    Option (Bool × String) × RegexCache :=
  if c.errMsg = "" ∨ c.messages = [] then (some (false, ""), cache)
  else
    match c.messages.find? (contains c.errMsg) with
    | some em => (some (true, em), cache)
    | none =>
      let cacheKey := String.intercalate "\n" c.messages
      match cache cacheKey with
      | some regexps => (matchLoop c.messages c.errMsg 0 regexps, cache)
      | none =>
        let compiled := c.messages.map compile
        (matchLoop c.messages c.errMsg 0 compiled, Function.update cache cacheKey compiled)

def cacheAfter (calls : List Call) : RegexCache :=
  run (fun cache c => (findMatchedErrorMessage compile c cache).2) (fun _ => none) calls

def Call.OneLined (c : Call) : Prop := ∀ em ∈ c.messages, '\n' ∉ em.toList

/-- The key of messages of one line tells them. -/
lemma splitOn_intercalate {messages : List String} (hn : messages ≠ [])
    (h : ∀ em ∈ messages, '\n' ∉ em.toList) :
    ((String.intercalate "\n" messages).toList.splitOn '\n').map String.ofList = messages := by
  have hl : (String.intercalate "\n" messages).toList.splitOn '\n' =
      messages.map String.toList := by
    rw [String.toList_intercalate]
    exact List.splitOn_intercalate '\n' (by simpa using h) (by simpa using hn)
  rw [hl, List.map_map]
  simp

/-- Every cached list was compiled from the messages that its key tells. -/
def Compiled (cache : RegexCache) : Prop :=
  ∀ key regexps, cache key = some regexps →
    regexps = ((key.toList.splitOn '\n').map String.ofList).map compile

lemma matchLoop_ne_none (errMsg : String) (before after : List String) :
    matchLoop (before ++ after) errMsg before.length (after.map compile) ≠ none := by
  induction after generalizing before with
  | nil => exact some_ne_none _
  | cons em after ih =>
    have hg : (before ++ em :: after)[before.length]? = some em := by simp
    have hr := ih (before ++ [em])
    rw [List.append_assoc, List.length_append] at hr
    rw [List.map_cons]
    cases compile em with
    | none =>
      rw [matchLoop, hg]
      dsimp only
      split_ifs
      · exact some_ne_none _
      · exact hr
    | some re =>
      rw [matchLoop, hg]
      split_ifs
      · exact some_ne_none _
      · exact hr

variable {compile}

/-- A call on such a cache answers as on an empty one, and leaves such a cache. -/
lemma Compiled.call {cache : RegexCache} (h : Compiled compile cache) {c : Call} (hc : c.OneLined) :
    (findMatchedErrorMessage compile c cache).1 =
        (findMatchedErrorMessage compile c fun _ => none).1 ∧
      (findMatchedErrorMessage compile c cache).1 ≠ none ∧
      Compiled compile (findMatchedErrorMessage compile c cache).2 := by
  unfold findMatchedErrorMessage
  by_cases ht : c.errMsg = "" ∨ c.messages = []
  · simp only [ht, if_true]
    exact ⟨trivial, some_ne_none _, h⟩
  have hk := splitOn_intercalate (fun hn => ht (.inr hn)) hc
  have hm := matchLoop_ne_none compile c.errMsg [] c.messages
  simp only [ht, if_false]
  cases c.messages.find? (contains c.errMsg) with
  | some em => exact ⟨rfl, some_ne_none _, h⟩
  | none =>
    cases ha : cache (String.intercalate "\n" c.messages) with
    | some regexps =>
      obtain rfl := h _ _ ha
      rw [hk]
      exact ⟨rfl, hm, h⟩
    | none =>
      refine ⟨rfl, hm, fun key regexps hs => ?_⟩
      dsimp only at hs
      by_cases he : key = String.intercalate "\n" c.messages
      · rw [he, Function.update_self] at hs
        rw [he, hk]
        exact (some.inj hs).symm
      · rw [Function.update_of_ne he] at hs
        exact h key regexps hs

variable (compile) in
/-- After any calls whose messages have no line breaks, a call answers as it would with an
empty cache, and does not panic. -/
theorem matcher_cache_transparent (calls : List Call) (hcalls : ∀ c ∈ calls, c.OneLined)
    (c : Call) (hc : c.OneLined) :
    (findMatchedErrorMessage compile c (cacheAfter compile calls)).1 =
        (findMatchedErrorMessage compile c fun _ => none).1 ∧
      (findMatchedErrorMessage compile c (cacheAfter compile calls)).1 ≠ none := by
  have hf : Compiled compile fun _ => none := by
    rintro key regexps ⟨⟩
  have hcc : Compiled compile (cacheAfter compile calls) :=
    run_invariant_along _ (Compiled compile) (fun _ _ h (hc : Call.OneLined _) => (h.call hc).2.2)
      hf calls (Along.of_forall_mem _ (fun c hc _ => hcalls c hc) _)
  exact ⟨(hcc.call hc).1, (hcc.call hc).2.1⟩

end Calls

/-- `regexp.Compile` for literals, with or without the anchor in front; an anchor further on
matches nothing. -/
def compileLiteral : String → Option Regexp := fun em =>
  match em.toList with
  | '^' :: literal => some fun text => literal.isPrefixOf text.toList
  | literal => some fun text => '^' ∉ literal && contains text em

/-- The same call again, answered from the cache. -/
theorem repeated_call_transparent : (findMatchedErrorMessage compileLiteral ⟨["a", "^c"], "cd"⟩
      (cacheAfter compileLiteral [⟨["a", "^c"], "cd"⟩])).1 = some (true, "^c") :=
  (matcher_cache_transparent compileLiteral [⟨["a", "^c"], "cd"⟩] (by simp [Call.OneLined]) _
    (by simp [Call.OneLined])).1.trans (by decide)

/-- A message with a line break is matched by the expressions of two messages, and the
second match has no message to answer with. -/
theorem broken_line_panics :
    (findMatchedErrorMessage compileLiteral ⟨["a\n^c"], "cd"⟩ fun _ => none).1 =
        some (false, "") ∧
      (findMatchedErrorMessage compileLiteral ⟨["a\n^c"], "cd"⟩
        (cacheAfter compileLiteral [⟨["a", "^c"], "cd"⟩])).1 = none := by
  decide

/-- What the libraries read: a compiled expression, the submatches of one, the value at a
path in a JSON body, printed, and the media type of a content type. An error is `none`. -/
structure Readers where
  compile : String → Option Regexp
  submatch : String → Option (Bytes → List String)
  jsonPath : Bytes → String → Option String
  mediaType : String → Option String

namespace Readers
variable (readers : Readers)

/-- `ErrorParserPolicy.Match`. The content types are in lower case. -/
def matchParser (p : ErrorParserPolicy) (status contentType okStatus : String) : Bool :=
  let types := p.contentTypes.getD []
  let statusMatch := status ≠ "" ∧ status = okStatus ∨ p.statuses = [] ∨
    status ≠ "" ∧ status ∈ p.statuses
  let mediaType := match readers.mediaType contentType with
    | some mediaType => if mediaType = "" then contentType else mediaType
    | none => contentType
  statusMatch ∧ (types = [] ∨ contentType ≠ "" ∧ toLower mediaType ∈ types)

/-- `ErrorParserPolicy.ParseValue`. -/
def parseValue (p : ErrorParserPolicy) (body : Bytes) : Option String :=
  if p.parser = "" ∨ p.expression = "" ∨ body = [] then some ""
  else if toLower p.parser = "jsonpath" ∨ toLower p.parser = "json_path" then
    readers.jsonPath body p.expression
  else if toLower p.parser = "regexp" ∨ toLower p.parser = "regex" then
    (readers.submatch p.expression).map fun find => match find body with
      | _ :: group :: _ => group
      | [whole] => whole
      | [] => ""
  else none

/-- `FindMatchedErrorMessage`; here every call compiles its messages. -/
def findMatched (messages : List String) (errMsg : String) : Option String :=
  match (findMatchedErrorMessage readers.compile ⟨messages, errMsg⟩ fun _ => none).1 with
  | some (true, em) => some em
  | _ => none

/-- `MatchErrorWithReason` of a circuit-break policy. -/
def matchErrorWithReason (p : CircuitBreakPolicy) (statusCode : ℤ)
    (contentType errMsg : String) (body : Bytes) : Bool × String :=
  let parses := fun q : ErrorParserPolicy => q.parser ≠ "" ∧ q.expression ≠ ""
  let value := fun q : ErrorParserPolicy =>
    if readers.matchParser q (toString statusCode) contentType "200" then
      (readers.parseValue q body).filter (· ≠ "")
    else none
  if p.errorCodes = [] ∧ p.errorMessages = [] ∧ p.codePolicy.all (·.parser = "") ∧
      p.messagePolicy.all (·.parser = "") then
    (true, "no rules configured, matching all errors by default")
  else
    let byCode := match p.codePolicy.filter parses with
      | some q => ((value q).filter (· ∈ p.errorCodes)).map fun code =>
        "matched parsed error code '" ++ code ++ "' via code policy"
      | none =>
        if toString statusCode ∈ p.errorCodes then
          some ("matched status code '" ++ toString statusCode ++ "' in error codes list")
        else none
    let byParsed := ((p.messagePolicy.filter parses).bind value).bind fun message =>
      (readers.findMatched p.errorMessages message).map fun em =>
        "matched parsed error message '" ++ message ++ "' via message policy (pattern: '" ++ em ++
          "')"
    let byText := (readers.findMatched p.errorMessages errMsg).map fun em =>
      "matched error message pattern '" ++ em ++ "' (error: '" ++ errMsg ++ "')"
    match byCode <|> byParsed <|> byText with
    | some reason => (true, reason)
    | none => (false, "no dynamic rule matched")

def matchError (p : CircuitBreakPolicy) (statusCode : ℤ) (contentType errMsg : String)
    (body : Bytes) : Bool :=
  (readers.matchErrorWithReason p statusCode contentType errMsg body).1

end Readers
end TokenliveGateway.ErrorMessages
