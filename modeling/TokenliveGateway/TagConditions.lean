import TokenliveGateway.GatewayContext
import TokenliveGateway.GoStrings

/-!
# Tag conditions

The matchers of `pkg/matcher` on a request context, and the condition checks of
limit policies, of the tag router and of the tagging engine. A matcher reads one source of
values (header, query, cookie, system variable or tag) and compares them with the
condition's patterns.
-/
namespace TokenliveGateway
open HttpRequest GoStrings

namespace GatewayContext

def requestForGovernance (g : GatewayContext) : Request := g.governanceRequest.getD g.request

/-- `GetHeader`: the values under the key as spelled, else the canonical one. -/
def getHeader (g : GatewayContext) (key : String) : List String :=
  let h := g.requestForGovernance.header
  if h key ≠ [] then h key
  else if h.get key ≠ "" then [h.get key]
  else []

def getQuery (g : GatewayContext) (key : String) : List String :=
  g.requestForGovernance.query key

def getCookie (g : GatewayContext) (key : String) : String :=
  (g.requestForGovernance.cookie key).getD ""

def getSystemValue (g : GatewayContext) (key : String) : String :=
  if key = "model" then g.model
  else if key = "user" then g.userID
  else ""

def getTagValue (g : GatewayContext) (key : String) : String := (g.tags key).getD ""

end GatewayContext

namespace TagCondition

/-- `MatchWildcard`: a star at the end or at the front, anything else literally. -/
def matchWildcard (pattern value : String) : Bool :=
  if pattern = "" ∨ pattern = "*" then true
  else if hasSuffix pattern "*" then hasPrefix value (String.ofList pattern.toList.dropLast)
  else if hasPrefix pattern "*" then hasSuffix value (String.ofList pattern.toList.tail)
  else pattern = value

/-- `TagCondition.MatchValues`; an unknown operator means equality. -/
def matchValues (c : TagCondition) (actual : List String) : Bool :=
  let negated := c.opType = "NOT_EQUAL" ∨ c.opType = "NOT_IN"
  if actual = [] then negated
  else
    let found := actual.any fun a => c.values.any fun v => matchWildcard v a
    if negated then !found else found

/-- A single value counts as absent when it is empty. -/
def matchValue (c : TagCondition) (value : String) : Bool :=
  c.matchValues (if value = "" then [] else [value])

/-- The registered matcher for the condition's type, `none` for other types. -/
def run (c : TagCondition) (g : GatewayContext) : Option Bool :=
  let type := toLower c.type
  if type = "header" then some (c.matchValues (g.getHeader c.key))
  else if type = "query" then some (c.matchValues (g.getQuery c.key))
  else if type = "cookie" then some (c.matchValue (g.getCookie c.key))
  else if type = "system" then some (c.matchValue (g.getSystemValue c.key))
  else if type = "tag" then some (c.matchValue (g.getTagValue c.key))
  else none

end TagCondition

/-- `MatchLimitPolicyConditions`: every condition with a type must hold. -/
def matchLimitPolicyConditions (g : GatewayContext) (lp : LimitPolicy) : Bool :=
  lp.conditions.all fun c => c.type = "" || (c.run g).getD false

/-- The condition's matcher exists and is satisfied. -/
def TagCondition.holds (c : TagCondition) (g : GatewayContext) : Bool := (c.run g).getD false

/-- The loop over the conditions that have a type. -/
def conditionLoop (isAnd : Bool) (g : GatewayContext) : List TagCondition → Bool
  | [] => isAnd
  | c :: conds =>
    if isAnd && !c.holds g then false
    else if !isAnd && c.holds g then true
    else conditionLoop isAnd g conds

def matchConditions (isAnd : Bool) (g : GatewayContext) (conds : List TagCondition) : Bool :=
  let validConds := conds.filter fun c => c.type ≠ ""
  if validConds = [] then true else conditionLoop isAnd g validConds

/-- `TagRouter.matchConditions`. -/
def tagRouterMatches (g : GatewayContext) (conds : List TagCondition) (relation : String) : Bool :=
  matchConditions (relation ≠ "OR") g conds

/-- `TaggingEngine.matchConditions`; the relation is compared by `strings.EqualFold`. -/
def taggingMatches (g : GatewayContext) (conds : List TagCondition) (relation : String) : Bool :=
  matchConditions (toUpper relation ≠ "OR") g conds

lemma conditionLoop_eq (isAnd : Bool) (g : GatewayContext) (conds : List TagCondition) :
    conditionLoop isAnd g conds =
      if isAnd then conds.all (·.holds g) else conds.any (·.holds g) := by
  induction conds with
  | nil => cases isAnd <;> rfl
  | cons c conds ih => cases isAnd <;> cases hc : c.holds g <;> simp [conditionLoop, hc, ih]

variable (g : GatewayContext)

lemma matchLimitPolicyConditions_eq (lp : LimitPolicy) :
    matchLimitPolicyConditions g lp = matchConditions true g lp.conditions := by
  simp only [matchLimitPolicyConditions, matchConditions, conditionLoop_eq, if_true]
  split_ifs with hn
  · simp only [List.filter_eq_nil_iff, decide_eq_true_eq, not_not] at hn
    exact List.all_eq_true.mpr fun c hc => by simp [hn c hc]
  · rw [Bool.eq_iff_iff]
    simp [TagCondition.holds, or_iff_not_imp_left]

/-- A disjunction agrees with a conjunction where all conditions with a type have one
verdict. -/
lemma matchConditions_or_eq_and_iff (conds : List TagCondition) :
    matchConditions false g conds = matchConditions true g conds ↔
      (∀ c ∈ conds, c.type ≠ "" → c.holds g = true) ∨
        ∀ c ∈ conds, c.type ≠ "" → c.holds g = false := by
  have hv : ∀ p : TagCondition → Prop, (∀ c ∈ conds, c.type ≠ "" → p c) ↔
      ∀ c ∈ conds.filter fun c => c.type ≠ "", p c := by
    simp
  simp only [hv, matchConditions, conditionLoop_eq, Bool.false_eq_true, if_false, if_true]
  generalize (conds.filter fun c => c.type ≠ "") = valid
  split_ifs with hn
  · simp [hn]
  · obtain ⟨c, hc⟩ := List.exists_mem_of_ne_nil valid hn
    rw [Bool.eq_iff_iff, List.any_eq_true, List.all_eq_true]
    constructor
    · intro h
      by_cases ha : ∀ c ∈ valid, c.holds g = true
      · exact .inl ha
      · exact .inr fun c hc => Bool.eq_false_iff.mpr fun ht => ha (h.mp ⟨c, hc, ht⟩)
    · rintro (ha | hnot)
      · exact iff_of_true ⟨c, hc, ha c hc⟩ ha
      · refine iff_of_false ?_ fun ha => by simpa [ha c hc] using hnot c hc
        rintro ⟨c, hc, ht⟩
        simpa [ht] using hnot c hc

/-- The three evaluators agree on a list under a relation exactly if the relation is not a
spelling of `OR`, or no two conditions differ in their verdict. -/
theorem conditions_judged_alike_iff (lp : LimitPolicy) (relation : String) :
    (matchLimitPolicyConditions g lp = tagRouterMatches g lp.conditions relation ∧
      tagRouterMatches g lp.conditions relation = taggingMatches g lp.conditions relation) ↔
    (toUpper relation = "OR" → (∀ c ∈ lp.conditions, c.type ≠ "" → c.holds g = true) ∨
        ∀ c ∈ lp.conditions, c.type ≠ "" → c.holds g = false) := by
  rw [← matchConditions_or_eq_and_iff, matchLimitPolicyConditions_eq, tagRouterMatches,
    taggingMatches, eq_comm]
  by_cases hf : toUpper relation = "OR"
  · generalize decide (relation ≠ "OR") = isAnd
    cases isAnd <;> simp [hf, eq_comm]
  · have he : relation ≠ "OR" := by
      rintro rfl
      exact hf (by decide)
    simp [hf, he]

/-- A disjunction with one condition met: the limit filter asks for both conditions, and
so does the router under another spelling. -/
theorem disjunction_judged_apart : let met : TagCondition :=
      { type := "system", opType := "EQUAL", key := "model", values := ["m"] }
    let unmet : TagCondition := { met with key := "user" }
    let g : GatewayContext := { request := {}, model := "m" }
    let lp : LimitPolicy :=
      { id := "lp", type := "request", slidingWindows := [], conditions := [met, unmet] }
    matchLimitPolicyConditions g lp = false ∧
      tagRouterMatches g lp.conditions "OR" = true ∧ taggingMatches g lp.conditions "OR" = true ∧
      tagRouterMatches g lp.conditions "or" = false ∧
      taggingMatches g lp.conditions "or" = true := by
  decide

end TokenliveGateway
