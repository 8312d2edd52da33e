import TokenliveGateway.LimitPolicies

/-!
# Which requests share a limit window

The key of a limit window joins the values of the policy's dimensions, the key of
the policy and the length of the window with colons. It leaves empty values out and
does not escape colons, so two keys are equal exactly if they fall into the same pieces
at their colons.
-/
namespace TokenliveGateway
open List

/-- The user, or the tenant of a request without user. -/
def limitIdentity (g : GatewayContext) : String := if g.userID = "" then g.tenant else g.userID

/-- The value of a field of `LimitBy`; an unknown field has none. -/
def limitDimension (g : GatewayContext) (field : String) : Option String :=
  if field = "tenant" then some g.tenant
  else if field = "user" then some g.userID
  else if field = "model" then some g.model
  else none

/-- The values of the dimensions of a policy, in which requests are to be separated. -/
def limitValues (g : GatewayContext) (lp : LimitPolicy) : List String :=
  if lp.limitBy = [] then [limitIdentity g, g.model] else lp.limitBy.filterMap (limitDimension g)

def windowKey (g : GatewayContext) (lp : LimitPolicy) (sw : SlidingWindow) : String :=
  sw.key (getLimitKey g lp)

/-- The values that are in the key: of the listed ones those that are not empty. -/
def keyValues (g : GatewayContext) (lp : LimitPolicy) : List String :=
  if lp.limitBy = [] then limitValues g lp else (limitValues g lp).filter (· ≠ "")

/-- A text in pieces, cut at its colons. -/
def colonParts (text : String) : List (List Char) := text.toList.splitOn ':'

lemma colon_not_mem_toDigits (n : ℕ) : ':' ∉ Nat.toDigits 10 n := by
  intro h
  exact absurd (Nat.isDigit_of_mem_toDigits (by decide) le_rfl h) (by decide)

lemma colon_not_mem_fractionString (u prec : ℕ) : ':' ∉ (fractionString u prec).toList := by
  unfold fractionString
  dsimp only
  split
  · simp
  · simp only [String.toList_append, String.toList_ofList, mem_append, mem_reverse]
    rintro (h | h)
    · exact absurd h (by decide)
    · rcases mem_append.mp ((dropWhile_sublist _).subset h) with hd | hzero
      · exact colon_not_mem_toDigits u (mem_reverse.mp (mem_of_mem_take hd))
      · exact absurd (eq_of_mem_replicate hzero) (by decide)

lemma colon_not_mem_durationString (d : ℕ) : ':' ∉ (durationString d).toList := by
  unfold durationString
  dsimp only
  split_ifs <;> simp [colon_not_mem_toDigits, colon_not_mem_fractionString]

lemma colonParts_append (text text' : String) :
    colonParts (text ++ ":" ++ text') = colonParts text ++ colonParts text' := by
  have hc : (text ++ ":" ++ text').toList = text.toList ++ ':' :: text'.toList := by simp
  rw [colonParts, hc, splitOn_append_cons_self]
  rfl

lemma colonParts_injective : Function.Injective colonParts := by
  intro text text' h
  have hj := congrArg (fun parts : List (List Char) => [':'].intercalate parts) h
  simp only [colonParts, intercalate_splitOn] at hj
  exact String.toList_inj.mp hj

lemma colonParts_intercalate {values : List String} (hv : values ≠ []) :
    colonParts (":".intercalate values) = values.flatMap colonParts := by
  induction values with
  | nil => exact absurd rfl hv
  | cons value values ih =>
    cases values with
    | nil => simp
    | cons value' values =>
      rw [String.intercalate_cons_cons, colonParts_append, ih (by simp)]
      rfl

variable (g g' : GatewayContext) (lp lp' : LimitPolicy) (sw sw' : SlidingWindow)

lemma flatMap_limitKeyPart (fields : List String) :
    fields.flatMap (limitKeyPart g) =
      (fields.filterMap (limitDimension g)).filter (· ≠ "") := by
  induction fields with
  | nil => rfl
  | cons field fields ih =>
    have hp : limitKeyPart g field = (limitDimension g field).toList.filter (· ≠ "") := by
      unfold limitKeyPart limitDimension
      split_ifs <;> simp_all
    rw [flatMap_cons, hp, ih]
    cases hf : limitDimension g field <;> simp [hf, filter_cons]
    split_ifs <;> simp

lemma getLimitKey_eq_intercalate :
    getLimitKey g lp = ":".intercalate (keyValues g lp ++ [lp.policyKey]) := by
  unfold getLimitKey keyValues limitValues limitIdentity
  by_cases he : lp.limitBy = []
  · simp [he, String.intercalate_cons_cons, String.append_assoc]
  · rw [if_neg he, if_neg he, if_neg he, flatMap_limitKeyPart]

/-- The key falls into the pieces of its values and of the policy's key, and the length of
the window. -/
lemma colonParts_windowKey : colonParts (windowKey g lp sw) =
    (keyValues g lp ++ [lp.policyKey]).flatMap colonParts ++
      [(durationString sw.window.toNat).toList] := by
  have hd : colonParts (durationString sw.window.toNat) =
      [(durationString sw.window.toNat).toList] :=
    splitOn_eq_singleton (colon_not_mem_durationString _)
  unfold windowKey SlidingWindow.key
  rw [colonParts_append, getLimitKey_eq_intercalate, colonParts_intercalate (by simp), hd]

lemma windowKey_eq_iff : windowKey g lp sw = windowKey g' lp' sw' ↔
    (keyValues g lp ++ [lp.policyKey]).flatMap colonParts =
      (keyValues g' lp' ++ [lp'.policyKey]).flatMap colonParts ∧
    durationString sw.window.toNat = durationString sw'.window.toNat := by
  rw [← colonParts_injective.eq_iff, colonParts_windowKey, colonParts_windowKey]
  constructor
  · intro h
    obtain ⟨hk, hd⟩ := append_inj' h rfl
    exact ⟨hk, String.toList_inj.mp (by simpa using hd)⟩
  · rintro ⟨hk, hd⟩
    rw [hk, hd]

/-- Requests that differ in a dimension of a policy share no window of it exactly if the
values in their keys fall into different pieces; policies with different keys share none
exactly if the values followed by the keys of the policies do, or no two windows of theirs
have the same length. -/
theorem limit_keys_separate :
    ((limitValues g lp ≠ limitValues g' lp → ∀ sw ∈ lp.slidingWindows, ∀ sw' ∈ lp.slidingWindows,
        windowKey g lp sw ≠ windowKey g' lp sw') ↔
      (limitValues g lp ≠ limitValues g' lp → lp.slidingWindows ≠ [] →
        (keyValues g lp).flatMap colonParts ≠ (keyValues g' lp).flatMap colonParts)) ∧
    ((lp.policyKey ≠ lp'.policyKey → ∀ sw ∈ lp.slidingWindows, ∀ sw' ∈ lp'.slidingWindows,
        windowKey g lp sw ≠ windowKey g' lp' sw') ↔
      (lp.policyKey ≠ lp'.policyKey →
        (∃ sw ∈ lp.slidingWindows, ∃ sw' ∈ lp'.slidingWindows,
          durationString sw.window.toNat = durationString sw'.window.toNat) →
        (keyValues g lp ++ [lp.policyKey]).flatMap colonParts ≠
          (keyValues g' lp' ++ [lp'.policyKey]).flatMap colonParts)) := by
  constructor
  · refine imp_congr_right fun _ => ⟨fun h hw he => ?_, fun h sw hs sw' _ he => ?_⟩
    · obtain ⟨sw, hs⟩ := exists_mem_of_ne_nil _ hw
      refine h sw hs sw hs ((windowKey_eq_iff g g' lp lp sw sw).mpr ⟨?_, rfl⟩)
      rw [flatMap_append, flatMap_append, he]
    · have hk := ((windowKey_eq_iff g g' lp lp sw sw').mp he).1
      rw [flatMap_append, flatMap_append] at hk
      exact h (ne_nil_of_mem hs) (append_cancel_right hk)
  · refine imp_congr_right fun _ => ⟨fun h ⟨sw, hs, sw', hs', hd⟩ he => ?_,
      fun h sw hs sw' hs' he => ?_⟩
    · exact h sw hs sw' hs' ((windowKey_eq_iff g g' lp lp' sw sw').mpr ⟨he, hd⟩)
    · obtain ⟨hk, hd⟩ := (windowKey_eq_iff g g' lp lp' sw sw').mp he
      exact h ⟨sw, hs, sw', hs', hd⟩ hk

def perUser : LimitPolicy where
  id := "p"
  type := "request"
  slidingWindows := [⟨10, 60000, none⟩]
  limitBy := ["tenant", "user"]

def requestOf (tenant userID : String) : GatewayContext :=
  { request := {}, tenant := tenant, userID := userID }

/-- A colon moves from one value to the next, and a tenant without user is taken for the user
without tenant. -/
theorem users_share_a_window :
    (limitValues (requestOf "a:b" "c") perUser ≠ limitValues (requestOf "a" "b:c") perUser ∧
      ∀ sw, windowKey (requestOf "a:b" "c") perUser sw =
        windowKey (requestOf "a" "b:c") perUser sw) ∧
    limitValues (requestOf "a" "") perUser ≠ limitValues (requestOf "" "a") perUser ∧
      ∀ sw, windowKey (requestOf "a" "") perUser sw = windowKey (requestOf "" "a") perUser sw :=
  ⟨⟨by decide, fun _ => rfl⟩, by decide, fun _ => rfl⟩

end TokenliveGateway
