import TokenliveGateway.LabelledRuns
import TokenliveGateway.StreamEvents
import TokenliveGateway.WebSocketSession

/-!
# The usage of WebSocket turns

One session, as a sequence of turns that are registered and events of the upstream. The
upstream answers the turns in order, each with `response.created` and a terminal event, or
with an error event. Which answer belongs to which turn is kept in a plan beside the
session; the session itself can only guess, from the order and the clock.
-/
namespace TokenliveGateway.WebSocketUsage
open LabelledRuns EventStreams WSSessionTracker List UpstreamFrame

/-! ## Sessions -/

/-- A turn is admitted and registered, or an event comes from the upstream. -/
inductive Act where
  | create (now : Nanos) (gctx : GatewayContext)
  | event (ev : UpstreamFrame)

/-- A turn is settled because of an event; the usage is that of the context that the
outbound filters get. -/
structure Settlement where
  turn : ℕ
  event : UpstreamFrame
  inputTokens : ℤ
  outputTokens : ℤ

structure Session where
  tracker : WSSessionTracker := {}
  registered : ℕ := 0
  settled : List Settlement := []

/-- `handleClientEvent` for a turn that the filters let pass, or `handleUpstreamEvent`. -/
def step (s : Session) (x : Act × Visit) : Session :=
  match x.1 with
  | .create now gctx =>
    let tempID := generateTempID now s.registered
    { s with
      tracker := s.tracker.addTurn tempID
        { number := s.registered, tempID := tempID, startTime := now, gctx := gctx }
      registered := s.registered + 1 }
  | .event ev =>
    let r := s.tracker.handleUpstreamEvent x.2 ev
    { s with
      tracker := r.2
      settled := s.settled ++ r.1.toList.map fun turn =>
        ⟨turn.number, ev, turn.gctx.inputTokens, turn.gctx.outputTokens⟩ }

/-! ## Plans -/

/-- An event that ends the response it names. -/
def isTerminal (ev : UpstreamFrame) : Bool :=
  ev.type ∈ responsesTerminals && ev.doneID ≠ ""

/-- What the upstream means: when the turns began, the answers to the first of them, an id
or an error, the responses that have ended, and the settlements that are due. -/
structure Plan where
  starts : List Nanos := []
  answers : List (Option String) := []
  finished : List String := []
  due : List Settlement := []

open Plan

namespace Plan

def note (p : Plan) : Act → Plan
  | .create now _ => { p with starts := p.starts ++ [now] }
  | .event ev =>
    if ev.isCreated then { p with answers := p.answers ++ [some ev.responseID] }
    else if ev.type = "error" then { p with answers := p.answers ++ [none] }
    else if isTerminal ev then
      { p with
        finished := p.finished ++ [ev.doneID]
        due := p.due ++
          [⟨p.answers.idxOf (some ev.doneID), ev, ev.inputTokens, ev.outputTokens⟩] }
    else p

/-- The next act is in order: a turn is answered once, under an id that no other turn has
and that is not one of the gateway's own, and a response ends once. -/
def Allows (p : Plan) : Act → Prop
  | .create _ _ => True
  | .event ev =>
    (ev.isCreated = true → p.answers.length < p.starts.length ∧
        isTempID ev.responseID = false ∧ some ev.responseID ∉ p.answers) ∧
      (ev.type = "error" → p.answers.length < p.starts.length) ∧
      (isTerminal ev = true → some ev.doneID ∈ p.answers ∧ ev.doneID ∉ p.finished)

instance (p : Plan) (act : Act) : Decidable (p.Allows act) :=
  match act with
  | .create _ _ => isTrue trivial
  | .event _ => inferInstanceAs (Decidable (_ ∧ _ ∧ _))

/-- The turn has no response: it is not answered, or by an error. -/
def Waiting (p : Plan) (k : ℕ) : Prop := p.answers[k]? = none ∨ p.answers[k]? = some none

/-- The next turn to be answered began before all others that have no response. -/
def Oldest (p : Plan) : Prop :=
  ∀ start j start', p.starts[p.answers.length]? = some start → j ≠ p.answers.length →
    p.starts[j]? = some start' → p.Waiting j → start < start'

/-- The session can follow: a response is created for the oldest turn without one, and
ends with `response.done`. -/
def Serves (p : Plan) : Act → Prop
  | .create _ _ => True
  | .event ev => (ev.isCreated = true → p.Oldest) ∧ (isTerminal ev = true → ev.isDone = true)

end Plan

/-- Turns that the upstream answers in order, and every response comes to its end. -/
structure InOrder (acts : List Act) : Prop where
  allowed : Along Plan.note Plan.Allows {} acts
  complete : ∀ id, some id ∈ (run Plan.note {} acts).answers →
    id ∈ (run Plan.note {} acts).finished

/-! ## Kinds of events -/

section Events
variable {ev : UpstreamFrame} (t : WSSessionTracker) (visit : Visit)

lemma type_of_isCreated (h : ev.isCreated = true) : ev.type = "response.created" := by
  simpa using (Bool.and_eq_true_iff.mp h).1

lemma type_of_isDone (h : ev.isDone = true) : ev.type = "response.done" := by
  simpa using (Bool.and_eq_true_iff.mp h).1

lemma not_isDelta_of_type (h : ev.type = "response.created" ∨ ev.type = "response.done") :
    ev.isDelta = false := by
  unfold isDelta
  rcases h with h | h
  · rw [h]
    rfl
  · rw [h]
    rfl

lemma isTerminal_of_isDone (h : ev.isDone = true) : isTerminal ev = true := by
  have hi := (Bool.and_eq_true_iff.mp h).2
  rw [isTerminal, type_of_isDone h, hi]
  rfl

lemma not_isDone_of_isCreated (h : ev.isCreated = true) : ev.isDone = false := by
  simp [isDone, type_of_isCreated h]

lemma not_isCreated_of_isDone (h : ev.isDone = true) : ev.isCreated = false := by
  simp [isCreated, type_of_isDone h]

lemma handle_created (h : ev.isCreated = true) :
    t.handleUpstreamEvent visit ev = (none, (t.associateLatestTempID visit ev.responseID).2) := by
  have hd := not_isDelta_of_type (.inl (type_of_isCreated h))
  simp [handleUpstreamEvent, bindResponse, countText, takeDone, h, hd, not_isDone_of_isCreated h]

lemma handle_done (h : ev.isDone = true) : t.handleUpstreamEvent visit ev = t.takeDone ev := by
  have hd := not_isDelta_of_type (.inr (type_of_isDone h))
  simp [handleUpstreamEvent, bindResponse, countText, not_isCreated_of_isDone h, hd]

lemma handle_other (hc : ev.isCreated = false) (hd : ev.isDone = false) :
    t.handleUpstreamEvent visit ev = (none, t.countText ev) := by
  simp [handleUpstreamEvent, bindResponse, takeDone, hc, hd]

lemma handle_of_not_isDone (h : ev.isDone = false) : (t.handleUpstreamEvent visit ev).1 = none := by
  simp [handleUpstreamEvent, takeDone, h]

lemma lookup_countText (ev : UpstreamFrame) (key : String) :
    ((t.countText ev).turns.lookup key).map (fun turn => (turn.number, turn.startTime)) =
      (t.turns.lookup key).map fun turn => (turn.number, turn.startTime) := by
  unfold countText
  split_ifs
  · rw [lookup_modify, Option.map_map]
    refine Option.map_congr fun turn _ => ?_
    simp only [Function.comp_apply]
    split_ifs <;> rfl
  · rfl

end Events

/-! ## Temporary ids -/

lemma isTempID_generateTempID (now : Nanos) (counter : ℕ) :
    isTempID (generateTempID now counter) = true := by
  unfold isTempID generateTempID GoStrings.hasPrefix
  rw [String.append_assoc, String.append_assoc, String.toList_append]
  exact isPrefixOf_iff_prefix.mpr (prefix_append _ _)

/-- The counter can be read off an id. -/
lemma generateTempID_injective {now now' : Nanos} {counter counter' : ℕ}
    (h : generateTempID now counter = generateTempID now' counter') : counter = counter' := by
  have hu : "_".toList = ['_'] := by decide
  have hd : ∀ n : ℕ, '_' ∉ (toString n).toList.reverse := by
    intro n hm
    have hi := GoStrings.isDigit_of_mem_toString (mem_reverse.mp hm)
    exact absurd hi (by decide)
  have hc := congrArg (fun s => s.toList.reverse) h
  simp only [generateTempID, String.toList_append, reverse_append, hu,
    reverse_singleton, singleton_append] at hc
  obtain ⟨hs, -⟩ := GoStrings.append_separator_inj (hd counter) (hd counter') hc
  exact GoStrings.toString_nat_injective (String.toList_injective (reverse_injective hs))

/-! ## Plans in order -/

namespace Plan

/-- What the order of the answers keeps. -/
structure Valid (p : Plan) : Prop where
  answered : p.answers.length ≤ p.starts.length
  official : ∀ id, some id ∈ p.answers → isTempID id = false
  distinct : ∀ (j k : ℕ) (id : String), p.answers[j]? = some (some id) →
    p.answers[k]? = some (some id) → j = k
  finished : ∀ id ∈ p.finished, some id ∈ p.answers

variable {p : Plan}

lemma Valid.answer (h : p.Valid) (ht : p.answers.length < p.starts.length) {ans : Option String}
    (ha : ∀ id, ans = some id → isTempID id = false ∧ some id ∉ p.answers) :
    Valid { p with answers := p.answers ++ [ans] } where
  answered := by
    rw [length_append]
    exact ht
  official id hid := by
    rcases mem_append.mp hid with hid | hid
    · exact h.official id hid
    · exact (ha id (mem_singleton.mp hid).symm).1
  distinct := by
    have hl : ∀ (j : ℕ) (id : String), (p.answers ++ [ans])[j]? = some (some id) →
        p.answers[j]? = some (some id) ∨ j = p.answers.length ∧ some id ∉ p.answers := by
      intro j id hj
      rcases Nat.lt_trichotomy j p.answers.length with ht | rfl | hg
      · exact .inl (by rwa [getElem?_append_left ht] at hj)
      · rw [getElem?_concat_length] at hj
        exact .inr ⟨rfl, (ha id (Option.some.inj hj)).2⟩
      · have hln : (p.answers ++ [ans]).length ≤ j := by
          rw [length_append]
          exact hg
        rw [getElem?_eq_none hln] at hj
        cases hj
    intro j k id hj hk
    rcases hl j id hj with hj | ⟨rfl, hn⟩
    · rcases hl k id hk with hk | ⟨rfl, hn⟩
      · exact h.distinct j k id hj hk
      · exact absurd (mem_of_getElem? hj) hn
    · rcases hl k id hk with hk | ⟨rfl, -⟩
      · exact absurd (mem_of_getElem? hk) hn
      · rfl
  finished id hid := mem_append_left _ (h.finished id hid)

lemma Valid.note (h : p.Valid) {act : Act} (ha : p.Allows act) : (p.note act).Valid := by
  cases act with
  | create now gctx =>
    refine ⟨?_, h.official, h.distinct, h.finished⟩
    simp only [Plan.note, length_append]
    exact h.answered.trans (Nat.le_add_right _ _)
  | event ev =>
    obtain ⟨hc, he, hr⟩ := ha
    unfold Plan.note
    dsimp only
    split_ifs with his hs ht
    · obtain ⟨hl, hm, hn⟩ := hc his
      refine h.answer hl fun id hi => ?_
      obtain rfl := Option.some.inj hi
      exact ⟨hm, hn⟩
    · exact h.answer (he hs) fun id hi => by cases hi
    · refine ⟨h.answered, h.official, h.distinct, fun id hi => ?_⟩
      rcases mem_append.mp hi with hi | hi
      · exact h.finished id hi
      · obtain rfl := mem_singleton.mp hi
        exact (hr ht).1
    · exact h

lemma valid_run {acts : List Act} (h : Along note Allows {} acts) : (run note {} acts).Valid :=
  run_invariant_along note Valid (fun _ _ hp ha => hp.note ha)
    ⟨le_rfl, by simp, by simp, by simp⟩ acts h

/-- The key that a turn is tracked under, if it is. -/
def keyOf (p : Plan) (k : ℕ) (start : Nanos) : Option String :=
  match p.answers[k]? with
  | some (some id) => if id ∈ p.finished then none else some id
  | _ => some (generateTempID start k)

variable {k : ℕ}

lemma keyOf_waiting (h : p.Waiting k) (st : Nanos) :
    p.keyOf k st = some (generateTempID st k) := by
  rcases h with h | h <;> simp [keyOf, h]

lemma keyOf_answered {id : String} (h : p.answers[k]? = some (some id))
    (ho : id ∉ p.finished) (st : Nanos) : p.keyOf k st = some id := by
  simp [keyOf, h, ho]

lemma keyOf_answer_of_ne (ans : Option String) (h : k ≠ p.answers.length) (start : Nanos) :
    keyOf { p with answers := p.answers ++ [ans] } k start = p.keyOf k start := by
  have hg : (p.answers ++ [ans])[k]? = p.answers[k]? := by
    rcases Nat.lt_or_gt_of_ne h with hl | ht
    · exact getElem?_append_left hl
    · rw [getElem?_eq_none ht.le, getElem?_eq_none]
      rw [length_append]
      exact ht
  simp [keyOf, hg]

lemma keyOf_answer_none (k : ℕ) (start : Nanos) :
    keyOf { p with answers := p.answers ++ [none] } k start = p.keyOf k start := by
  by_cases hk : k = p.answers.length
  · have ht : p.Waiting k := .inl (getElem?_eq_none hk.ge)
    have hw : Waiting { p with answers := p.answers ++ [none] } k := by
      subst hk
      exact .inr getElem?_concat_length
    rw [keyOf_waiting ht, keyOf_waiting hw]
  · exact keyOf_answer_of_ne none hk start

lemma keyOf_finish {id : String} (ht : isTempID id = false) (k : ℕ) (st : Nanos) :
    keyOf { p with finished := p.finished ++ [id] } k st =
      (p.keyOf k st).filter (· ≠ id) := by
  have hn : generateTempID st k ≠ id := by
    rintro rfl
    rw [isTempID_generateTempID] at ht
    cases ht
  unfold keyOf
  dsimp only
  split
  · rename_i ans _
    by_cases hf : ans ∈ p.finished
    · simp [hf]
    · rw [if_neg hf, Option.filter_some]
      by_cases hi : ans = id <;> simp [hf, hi]
  · simp [Option.filter_some, hn]

variable {st : Nanos} {key : String}

/-- A tracked turn waits under a temporary id, or has the id of its response. -/
lemma keyOf_cases (h : p.keyOf k st = some key) :
    p.Waiting k ∧ key = generateTempID st k ∨
      p.answers[k]? = some (some key) ∧ key ∉ p.finished := by
  cases ha : p.answers[k]? with
  | none =>
    rw [keyOf_waiting (.inl ha)] at h
    exact .inl ⟨.inl ha, (Option.some.inj h).symm⟩
  | some ans =>
    cases ans with
    | none =>
      rw [keyOf_waiting (.inr ha)] at h
      exact .inl ⟨.inr ha, (Option.some.inj h).symm⟩
    | some id =>
      simp only [keyOf, ha] at h
      split_ifs at h with hf
      obtain rfl := Option.some.inj h
      exact .inr ⟨rfl, hf⟩

lemma Valid.waiting_of_isTempID (h : p.Valid) (hk : p.keyOf k st = some key)
    (ht : isTempID key = true) : p.Waiting k := by
  rcases keyOf_cases hk with ⟨hw, -⟩ | ⟨ha, -⟩
  · exact hw
  · rw [h.official key (mem_of_getElem? ha)] at ht
    cases ht

lemma Valid.keyOf_inj (h : p.Valid) {j k : ℕ} {st' : Nanos} (hj : p.keyOf j st = some key)
    (hk : p.keyOf k st' = some key) : j = k := by
  rcases keyOf_cases hj with ⟨hwt, rfl⟩ | ⟨ha, -⟩
  · have hw := h.waiting_of_isTempID hk (isTempID_generateTempID _ _)
    rw [keyOf_waiting hw] at hk
    exact (generateTempID_injective (Option.some.inj hk)).symm
  · rcases keyOf_cases hk with ⟨-, rfl⟩ | ⟨ha', -⟩
    · have ht := h.official _ (mem_of_getElem? ha)
      rw [isTempID_generateTempID] at ht
      cases ht
    · exact h.distinct j k key ha ha'

end Plan

/-! ## A session that follows its plan -/

/-- The turn under a key: its number and when it began. -/
def Session.turnAt (s : Session) (key : String) : Option (ℕ × Nanos) :=
  (s.tracker.turns.lookup key).map fun turn => (turn.number, turn.startTime)

/-- Every turn of the plan is tracked under its key, and nothing else is. -/
structure Follows (p : Plan) (s : Session) : Prop where
  registered : s.registered = p.starts.length
  settled : s.settled = p.due
  turnAt_iff : ∀ key k start, s.turnAt key = some (k, start) ↔
    p.starts[k]? = some start ∧ p.keyOf k start = some key

namespace Follows
variable {p : Plan} {s : Session} (h : Follows p s)
include h

lemma tracked {key : String} {turn : ActiveTurn} (hl : s.tracker.turns.lookup key = some turn) :
    p.starts[turn.number]? = some turn.startTime ∧
      p.keyOf turn.number turn.startTime = some key :=
  (h.turnAt_iff key _ _).mp (by rw [Session.turnAt, hl]; rfl)

lemma present {k : ℕ} {st : Nanos} {key : String} (hs : p.starts[k]? = some st)
    (hk : p.keyOf k st = some key) :
    ∃ turn, s.tracker.turns.lookup key = some turn ∧ turn.number = k ∧ turn.startTime = st := by
  obtain ⟨turn, hl, heq⟩ := Option.map_eq_some_iff.mp ((h.turnAt_iff key k st).mpr ⟨hs, hk⟩)
  exact ⟨turn, hl, Prod.mk.inj heq⟩

lemma create (hv : p.Valid) (now : Nanos) (gctx : GatewayContext) (visit : Visit) :
    Follows (p.note (.create now gctx)) (step s (.create now gctx, visit)) := by
  have hw : p.Waiting p.starts.length := .inl (List.getElem?_eq_none hv.answered)
  have hn := keyOf_waiting hw now
  unfold step note
  dsimp only
  rw [h.registered]
  refine ⟨by simp, h.settled, fun key k st => ?_⟩
  change _ ↔ _ ∧ p.keyOf k st = some key
  by_cases hk : key = generateTempID now p.starts.length
  · subst hk
    simp only [Session.turnAt, addTurn, lookup_insert_self, Option.map_some, Option.some.injEq,
      Prod.mk.injEq]
    constructor
    · rintro ⟨rfl, rfl⟩
      exact ⟨List.getElem?_concat_length, hn⟩
    · rintro ⟨hs, hk⟩
      obtain rfl := hv.keyOf_inj hn hk
      rw [List.getElem?_concat_length] at hs
      exact ⟨rfl, Option.some.inj hs⟩
  · simp only [Session.turnAt, addTurn, lookup_insert_of_ne hk]
    refine (h.turnAt_iff key k st).trans (and_congr_left fun hy => ?_)
    rcases Nat.lt_trichotomy k p.starts.length with hl | rfl | hg
    · rw [List.getElem?_append_left hl]
    · rw [keyOf_waiting hw] at hy
      simp only [List.getElem?_concat_length, List.getElem?_eq_none le_rfl, reduceCtorEq, false_iff]
      rintro ⟨⟩
      exact hk (Option.some.inj hy).symm
    · rw [List.getElem?_eq_none hg.le, List.getElem?_eq_none]
      rw [List.length_append]
      exact hg

/-- The session finds the turn that is answered. -/
lemma oldest (hv : p.Valid) (ho : p.Oldest)
    (ht : p.answers.length < p.starts.length) (visit : Visit) :
    ∃ turn, s.tracker.turns.lookup (generateTempID turn.startTime p.answers.length) = some turn ∧
      s.tracker.oldestTemp visit = some (generateTempID turn.startTime p.answers.length, turn) ∧
      turn.number = p.answers.length ∧ p.starts[p.answers.length]? = some turn.startTime := by
  have hs : p.starts[p.answers.length]? = some p.starts[p.answers.length] := getElem?_eq_getElem ht
  have hw : p.Waiting p.answers.length := .inl (getElem?_eq_none le_rfl)
  obtain ⟨turn, hl, hn, hi⟩ := h.present hs (keyOf_waiting hw _)
  rw [← hi] at hs hl
  refine ⟨turn, hl, ?_, hn, hs⟩
  refine oldestTemp_eq visit hl (isTempID_generateTempID _ _) ?_
  intro other turn' hot hl' htm
  obtain ⟨hs', hk'⟩ := h.tracked hl'
  refine ho _ turn'.number _ hs (fun hm => hot ?_) hs' (hv.waiting_of_isTempID hk' htm)
  rw [hm] at hs' hk'
  rw [hs] at hs'
  rw [keyOf_waiting hw, ← Option.some.inj hs'] at hk'
  exact (Option.some.inj hk').symm

variable {ev : UpstreamFrame}

/-- The turn that is answered gets the id of its response. -/
lemma created (hv : p.Valid) (hc : ev.isCreated = true) (ha : p.Allows (.event ev)) (ho : p.Oldest)
    (visit : Visit) : Follows (p.note (.event ev)) (step s (.event ev, visit)) := by
  obtain ⟨hl, ht, hn⟩ := ha.1 hc
  obtain ⟨turn, hlk, hf, hnm, hs⟩ := h.oldest hv ho hl visit
  have has : s.tracker.associateLatestTempID visit ev.responseID =
      (some { turn with responseID := ev.responseID },
        (s.tracker.erase (generateTempID turn.startTime p.answers.length)).insert ev.responseID
          { turn with responseID := ev.responseID }) := by
    rw [associateLatestTempID, hf]
  have hp : ev.responseID ∉ p.finished := fun hm => hn (hv.finished _ hm)
  have hw : p.Waiting p.answers.length := .inl (getElem?_eq_none le_rfl)
  have he : ∀ st, keyOf { p with answers := p.answers ++ [some ev.responseID] }
      p.answers.length st = some ev.responseID :=
    keyOf_answered (p := { p with answers := p.answers ++ [some ev.responseID] })
      getElem?_concat_length hp
  unfold step note
  dsimp only
  rw [handle_created _ _ hc, has, if_pos hc]
  refine ⟨h.registered, by rw [h.settled]; simp, fun key k st => ?_⟩
  by_cases hi : key = ev.responseID
  · subst hi
    simp only [Session.turnAt, lookup_insert_self, Option.map_some, Option.some.injEq,
      Prod.mk.injEq, hnm]
    by_cases hk : k = p.answers.length
    · subst hk
      simp [hs, he]
    · rw [keyOf_answer_of_ne _ hk]
      refine iff_of_false (fun hsm => hk hsm.1.symm) fun hsm => ?_
      rcases keyOf_cases hsm.2 with ⟨-, hsa⟩ | ⟨han, -⟩
      · rw [hsa, isTempID_generateTempID] at ht
        cases ht
      · exact hn (mem_of_getElem? han)
  · by_cases hne : key = generateTempID turn.startTime p.answers.length
    · subst hne
      simp only [Session.turnAt, lookup_insert_of_ne hi, lookup_erase_self, Option.map_none,
        reduceCtorEq, false_iff]
      rintro ⟨-, hy⟩
      by_cases hk : k = p.answers.length
      · subst hk
        rw [he] at hy
        exact hi (Option.some.inj hy).symm
      · rw [keyOf_answer_of_ne _ hk] at hy
        exact hk (hv.keyOf_inj hy (keyOf_waiting hw _))
    · simp only [Session.turnAt, lookup_insert_of_ne hi, lookup_erase_of_ne hne]
      refine (h.turnAt_iff key k st).trans (and_congr_right fun hs' => ?_)
      by_cases hk : k = p.answers.length
      · subst hk
        rw [hs] at hs'
        obtain rfl := Option.some.inj hs'
        rw [keyOf_waiting hw, he]
        simp [Ne.symm hne, Ne.symm hi]
      · rw [keyOf_answer_of_ne _ hk]

lemma stay (p' : Plan) (hs : p'.starts = p.starts)
    (hk : ∀ k st, p'.keyOf k st = p.keyOf k st) (hd : p'.due = p.due)
    (hc : ev.isCreated = false) (hn : ev.isDone = false)
    (visit : Visit) : Follows p' (step s (.event ev, visit)) := by
  unfold step
  dsimp only
  rw [handle_other _ _ hc hn]
  refine ⟨h.registered.trans (congrArg length hs.symm), by simpa [hd] using h.settled,
    fun key k st => ?_⟩
  rw [hs, hk, ← h.turnAt_iff]
  exact iff_of_eq (congrArg (· = _) (lookup_countText s.tracker ev key))

lemma done (hv : p.Valid) (hd : ev.isDone = true)
    (ha : some ev.doneID ∈ p.answers) (ho : ev.doneID ∉ p.finished) (visit : Visit) :
    Follows { p with
        finished := p.finished ++ [ev.doneID]
        due := p.due ++ [⟨p.answers.idxOf (some ev.doneID), ev, ev.inputTokens, ev.outputTokens⟩] }
      (step s (.event ev, visit)) := by
  have hi : p.answers[p.answers.idxOf (some ev.doneID)]? = some (some ev.doneID) :=
    getElem?_idxOf ha
  have ht : p.answers.idxOf (some ev.doneID) < p.starts.length :=
    (idxOf_lt_length_of_mem ha).trans_le hv.answered
  obtain ⟨turn, hl, hm, -⟩ := h.present (getElem?_eq_getElem ht) (keyOf_answered hi ho _)
  have htk : s.tracker.takeDone ev = (some (turn.complete ev), s.tracker.erase ev.doneID) := by
    simp [takeDone, hd, removeTurn, hl]
  have hk : ∀ k st, keyOf { p with
        finished := p.finished ++ [ev.doneID]
        due := p.due ++
          [⟨p.answers.idxOf (some ev.doneID), ev, ev.inputTokens, ev.outputTokens⟩] } k st =
      (p.keyOf k st).filter (· ≠ ev.doneID) :=
    keyOf_finish (hv.official _ ha)
  unfold step
  dsimp only
  rw [handle_done _ _ hd, htk]
  refine ⟨h.registered, ?_, fun key k st => ?_⟩
  · rw [h.settled, ← hm]
    rfl
  · rw [hk, Option.filter_eq_some_iff, ← and_assoc, ← h.turnAt_iff]
    by_cases hn : key = ev.doneID
    · subst hn
      simp [Session.turnAt, lookup_erase_self]
    · simp [Session.turnAt, lookup_erase_of_ne hn, hn]

lemma next (hv : p.Valid) {act : Act} (ha : p.Allows act)
    (hs : p.Serves act) (visit : Visit) : Follows (p.note act) (step s (act, visit)) := by
  cases act with
  | create now gctx => exact h.create hv now gctx visit
  | event ev =>
    by_cases hc : ev.isCreated = true
    · exact h.created hv hc ha (hs.1 hc) visit
    · rw [note, if_neg hc]
      rw [Bool.not_eq_true] at hc
      by_cases he : ev.type = "error"
      · have hd : ev.isDone = false := by simp [isDone, he]
        rw [if_pos he]
        exact h.stay { p with answers := p.answers ++ [none] } rfl keyOf_answer_none rfl hc hd visit
      · rw [if_neg he]
        by_cases ht : isTerminal ev = true
        · obtain ⟨hn, ho⟩ := ha.2.2 ht
          rw [if_pos ht]
          exact h.done hv (hs.2 ht) hn ho visit
        · have hd : ev.isDone = false := by
            rw [← Bool.not_eq_true]
            exact fun hd => ht (isTerminal_of_isDone hd)
          rw [if_neg ht]
          exact h.stay p rfl (fun _ _ => rfl) rfl hc hd visit

end Follows

lemma follows_run (vs : List (Act × Visit))
    (ha : Along note Plan.Allows {} (vs.map Prod.fst))
    (hs : Along note Plan.Serves {} (vs.map Prod.fst)) :
    Follows (run note {} (vs.map Prod.fst)) (run step {} vs) := by
  have ht : Plan.Valid {} ∧ Follows {} {} :=
    ⟨⟨le_rfl, by simp, by simp, by simp⟩, ⟨rfl, rfl, by simp [Session.turnAt]⟩⟩
  refine (run_simulation note step Prod.fst (fun p s => p.Valid ∧ Follows p s) ?_ ht
    vs (along_and note ha hs)).2
  rintro p s ⟨act, visit⟩ ⟨hvalid, h⟩ ⟨hl, hs⟩
  exact ⟨hvalid.note hl, h.next hvalid hl hs visit⟩

/-! ## A session that does not -/

lemma isDone_of_mem_settled (vs : List (Act × Visit)) :
    ∀ x ∈ (run step {} vs).settled, x.event.isDone = true := by
  refine run_invariant step (fun s => ∀ x ∈ s.settled, x.event.isDone = true) ?_ (by simp) vs
  rintro s ⟨act, visit⟩ h
  cases act with
  | create now gctx => exact h
  | event ev =>
    intro x hx
    rcases mem_append.mp hx with hx | hx
    · exact h x hx
    · obtain ⟨turn, ht, rfl⟩ := mem_map.mp hx
      by_contra hd
      rw [handle_of_not_isDone _ _ ((Bool.not_eq_true _).mp hd)] at ht
      cases ht

lemma settled_step (s : Session) (x : Act × Visit) : s.settled ⊆ (step s x).settled := by
  obtain ⟨act, visit⟩ := x
  cases act with
  | create now gctx => exact List.Subset.refl _
  | event ev => exact subset_append_left _ _

namespace Plan
variable {p : Plan}

/-- Nothing is taken back. -/
lemma note_extends (p : Plan) (act : Act) :
    p.answers <+: (p.note act).answers ∧ p.due <+: (p.note act).due := by
  cases act with
  | create now gctx => exact ⟨prefix_rfl, prefix_rfl⟩
  | event ev =>
    unfold note
    dsimp only
    split_ifs <;> simp

lemma answers_note (act : Act) {k : ℕ} {answer : Option String}
    (h : p.answers[k]? = some answer) : (p.note act).answers[k]? = some answer := by
  obtain ⟨more, hm⟩ := (note_extends p act).1
  rw [← hm, List.getElem?_append_left (List.getElem?_eq_some_iff.mp h).1, h]

lemma note_terminal {ev : UpstreamFrame} (h : isTerminal ev = true) : p.note (.event ev) = { p with
      finished := p.finished ++ [ev.doneID]
      due := p.due ++
        [⟨p.answers.idxOf (some ev.doneID), ev, ev.inputTokens, ev.outputTokens⟩] } := by
  have ht : ev.type ∈ responsesTerminals := by simpa using (Bool.and_eq_true_iff.mp h).1
  have hc : ev.isCreated = false := by
    rw [← Bool.not_eq_true]
    intro hc
    rw [type_of_isCreated hc] at ht
    exact absurd ht (by decide)
  have he : ev.type ≠ "error" := by
    intro he
    rw [he] at ht
    exact absurd ht (by decide)
  rw [note, if_neg (by simp [hc]), if_neg he, if_pos h]

/-- A settlement is due for the turn that has its response. -/
lemma due_run {acts : List Act} (h : Along note Allows {} acts) : ∀ x ∈ (run note {} acts).due,
      (run note {} acts).answers[x.turn]? = some (some x.event.doneID) := by
  refine run_invariant_along note
    (fun p => ∀ x ∈ p.due, p.answers[x.turn]? = some (some x.event.doneID)) ?_ (by simp) acts h
  intro p act hp ha x hx
  by_cases ho : x ∈ p.due
  · exact answers_note act (hp x ho)
  · cases act with
    | create now gctx => exact absurd hx ho
    | event ev =>
      by_cases ht : isTerminal ev = true
      · rw [note_terminal ht] at hx ⊢
        obtain rfl := mem_singleton.mp ((mem_append.mp hx).resolve_left ho)
        exact getElem?_idxOf (ha.2.2 ht).1
      · unfold note at hx
        dsimp only at hx
        split_ifs at hx
        all_goals exact absurd hx ho

end Plan

/-- What the session does with another response leaves a turn under its id. -/
lemma number_handle (t : WSSessionTracker) (visit : Visit) {ev : UpstreamFrame} {id : String}
    (ht : isTempID id = false) (hc : ev.isCreated = true → ev.responseID ≠ id)
    (hd : ev.isDone = true → ev.doneID ≠ id) :
    ((t.handleUpstreamEvent visit ev).2.turns.lookup id).map (·.number) =
      (t.turns.lookup id).map (·.number) := by
  by_cases hs : ev.isCreated = true
  · rw [handle_created _ _ hs]
    unfold associateLatestTempID
    cases hf : t.oldestTemp visit with
    | none => rfl
    | some target =>
      have hn : id ≠ target.1 := by
        rintro rfl
        rw [isTempID_oldestTemp visit hf] at ht
        cases ht
      dsimp only
      rw [lookup_insert_of_ne (hc hs).symm, lookup_erase_of_ne hn]
  · rw [Bool.not_eq_true] at hs
    by_cases hi : ev.isDone = true
    · rw [handle_done _ _ hi]
      cases hl : t.turns.lookup ev.doneID with
      | none => simp [takeDone, hi, removeTurn, hl]
      | some turn =>
        simp [takeDone, hi, removeTurn, hl, lookup_erase_of_ne (hd hi).symm]
    · rw [Bool.not_eq_true] at hi
      rw [handle_other _ _ hs hi]
      have hm := congrArg (Option.map Prod.fst) (lookup_countText t ev id)
      rwa [Option.map_map, Option.map_map] at hm

/-- The response of the turn `k` has another turn, which is settled in its place; or an
event that settles nothing has ended a response. -/
structure Misled (id : String) (k : ℕ) (p : Plan) (s : Session) : Prop where
  answered : p.answers[k]? = some (some id)
  stray : id ∉ p.finished ∧ (∃ n ≠ k, (s.tracker.turns.lookup id).map (·.number) = some n) ∨
    (∃ x ∈ s.settled, x.event.doneID = id ∧ x.turn ≠ k) ∨
    ∃ x ∈ p.due, x.event.isDone = false

lemma Misled.next {id : String} {k : ℕ} {p : Plan} {s : Session} (h : Misled id k p s)
    (hv : p.Valid) {act : Act} (ha : p.Allows act) (visit : Visit) :
    Misled id k (p.note act) (step s (act, visit)) := by
  refine ⟨answers_note act h.answered, ?_⟩
  have ho := hv.official id (mem_of_getElem? h.answered)
  rcases h.stray with ⟨hp, n, hn, hl⟩ | ⟨x, hx, hi⟩ | ⟨x, hx, hd⟩
  · cases act with
    | create now gctx =>
      have hk : id ≠ generateTempID now s.registered := by
        rintro rfl
        rw [isTempID_generateTempID] at ho
        cases ho
      refine .inl ⟨hp, n, hn, ?_⟩
      exact (congrArg (Option.map _) (lookup_insert_of_ne hk)).trans hl
    | event ev =>
      have hc : ev.isCreated = true → ev.responseID ≠ id := by
        rintro hc rfl
        exact (ha.1 hc).2.2 (mem_of_getElem? h.answered)
      by_cases ht : isTerminal ev = true
      · rw [note_terminal ht]
        by_cases hd : ev.isDone = true
        · by_cases hi : ev.doneID = id
          · subst hi
            obtain ⟨turn, hu, hm⟩ := Option.map_eq_some_iff.mp hl
            refine .inr (.inl ⟨⟨turn.number, ev, ev.inputTokens, ev.outputTokens⟩, ?_, rfl, ?_⟩)
            · simp [step, handle_done _ _ hd, takeDone, hd, removeTurn, hu, ActiveTurn.complete]
            · rw [hm]
              exact hn
          · refine .inl ⟨?_, n, hn, ?_⟩
            · simp [hp, Ne.symm hi]
            · exact (number_handle _ visit ho hc fun _ => hi).trans hl
        · refine .inr (.inr ⟨_, mem_append_right _ (mem_singleton.mpr rfl), ?_⟩)
          exact (Bool.not_eq_true _).mp hd
      · have hd : ev.isDone = true → ev.doneID ≠ id := fun hd =>
          absurd (isTerminal_of_isDone hd) ht
        refine .inl ⟨?_, n, hn, ?_⟩
        · unfold note
          dsimp only
          split_ifs
          all_goals exact hp
        · exact (number_handle _ visit ho hc hd).trans hl
  · exact .inr (.inl ⟨x, settled_step s _ hx, hi⟩)
  · exact .inr (.inr ⟨x, (note_extends p act).2.subset hx, hd⟩)

/-- A response that is not created for the oldest turn goes, in some order of the turns, to
another one. -/
lemma Follows.misled {p : Plan} {s : Session} (h : Follows p s) (hv : p.Valid)
    {ev : UpstreamFrame} (hc : ev.isCreated = true) (ha : p.Allows (.event ev))
    (ho : ¬p.Oldest) :
    ∃ visit, Misled ev.responseID p.answers.length (p.note (.event ev))
      (step s (.event ev, visit)) := by
  obtain ⟨hlt, htm, hn⟩ := ha.1 hc
  simp only [Plan.Oldest, not_forall] at ho
  obtain ⟨st, j, st', ht, he, ht', hw, hle⟩ := ho
  obtain ⟨turn, hl, hnm, hi⟩ := h.present ht' (keyOf_waiting hw st')
  obtain ⟨best, hf, -, hbs⟩ := oldestTemp_visitFirst hl (isTempID_generateTempID st' j)
  have hot : best.2.number ≠ p.answers.length := by
    rcases hbs with rfl | hb
    · rwa [hnm]
    · intro hsm
      have hs := (h.tracked (lookup_oldestTemp _ hf)).1
      rw [hsm, ht] at hs
      rw [hi, ← Option.some.inj hs] at hb
      exact hle hb
  refine ⟨visitFirst (generateTempID st' j), ?_, .inl ⟨?_, best.2.number, hot, ?_⟩⟩
  · rw [note, if_pos hc]
    exact getElem?_concat_length
  · rw [note, if_pos hc]
    exact fun hm => hn (hv.finished _ hm)
  · simp [step, handle_created _ _ hc, associateLatestTempID, hf]

/-- What is due during a run is due at its end. -/
lemma Plan.due_subset_run (p : Plan) (acts : List Act) : p.due ⊆ (run note p acts).due :=
  run_invariant note (fun p' => p.due ⊆ p'.due)
    (fun p' act hs => List.Subset.trans hs (note_extends p' act).2.subset) (List.Subset.refl _) acts

lemma Plan.exists_due {ev : UpstreamFrame} (h : isTerminal ev = true) (pre rest : List Act) :
    ∃ x ∈ (run note {} (pre ++ .event ev :: rest)).due, x.event = ev := by
  have hn := note_terminal (p := run note {} pre) h
  rw [run_append, run_cons, hn]
  exact ⟨_, due_subset_run _ rest (mem_append_right _ (mem_singleton.mpr rfl)), rfl⟩

/-- Once all responses have ended, a session that was misled has not settled what was due. -/
lemma Misled.settled_ne {id : String} {k : ℕ} {acts : List Act} {vs : List (Act × Visit)}
    (h : InOrder acts) (hm : Misled id k (run note {} acts) (run step {} vs)) :
    (run step {} vs).settled ≠ (run note {} acts).due := by
  intro hs
  rcases hm.stray with ⟨ho, -⟩ | ⟨x, hx, hi, hn⟩ | ⟨x, hx, hu⟩
  · exact ho (h.complete _ (mem_of_getElem? hm.answered))
  · rw [hs] at hx
    have ht := due_run h.allowed x hx
    rw [hi] at ht
    exact hn ((valid_run h.allowed).distinct _ _ _ ht hm.answered)
  · rw [← hs] at hx
    rw [isDone_of_mem_settled vs x hx] at hu
    cases hu

lemma map_fst_visited (visit : Visit) (acts : List Act) :
    (acts.map fun act => (act, visit)).map Prod.fst = acts := by
  simp [Function.comp_def]

/-- Each turn is settled with the usage of its own response, whatever order the map of the
turns is visited in, iff every response is created for the oldest turn that has none, by the
clock and with the turns that failed, and ends with `response.done`. -/
theorem usage_to_own_turn_iff (acts : List Act) (h : InOrder acts) :
    (∀ visited : List (Act × Visit), visited.map Prod.fst = acts →
        (run step {} visited).settled = (run Plan.note {} acts).due) ↔
      Along Plan.note Plan.Serves {} acts := by
  constructor
  · intro hs
    by_contra hnot
    obtain ⟨pre, act, rest, rfl, hfr, hb⟩ := exists_of_not_along note hnot
    obtain ⟨ha, hl, hrs⟩ := (along_append note {} pre _).mp h.allowed
    have hv := valid_run ha
    cases act with
    | create now gctx => exact hb trivial
    | event ev =>
      -- an event that ends a response settles one
      have ht : isTerminal ev = true → ev.isDone = true := by
        intro ht
        obtain ⟨x, hx, hev⟩ := exists_due ht pre rest
        rw [← hs _ (map_fst_visited plainOrder _)] at hx
        rw [← hev]
        exact isDone_of_mem_settled _ x hx
      -- so the response is not for the oldest turn, and can go to another
      have hc : ev.isCreated = true := by
        by_contra hc
        exact hb ⟨fun hc' => absurd hc' hc, ht⟩
      have hov : ¬(run note {} pre).Oldest := fun ho =>
        hb ⟨fun _ => ho, ht⟩
      have hf := follows_run (pre.map fun act => (act, plainOrder))
        (by rwa [map_fst_visited]) (by rwa [map_fst_visited])
      rw [map_fst_visited] at hf
      obtain ⟨visit, hm⟩ := hf.misled hv hc hl hov
      obtain ⟨-, he⟩ := run_simulation note step Prod.fst
        (fun p s => p.Valid ∧ Misled ev.responseID (run note {} pre).answers.length p s)
        (fun p s x hp hx => ⟨hp.1.note hx, hp.2.next hp.1 hx x.2⟩)
        ⟨hv.note hl, hm⟩ (rest.map fun act => (act, plainOrder))
        (by rwa [map_fst_visited])
      rw [map_fst_visited, ← run_cons, ← run_append, ← run_cons, ← run_append] at he
      refine he.settled_ne h (hs _ ?_)
      rw [map_append, map_cons, map_fst_visited, map_fst_visited]
  · rintro hr visited rfl
    exact (follows_run visited h.allowed hr).settled

lemma Plan.oldest_of_alone {p : Plan} (hl : p.starts.length = p.answers.length + 1)
    (ha : none ∉ p.answers) : p.Oldest := by
  intro st j st' _ he hs' hw
  have ht := (List.getElem?_eq_some_iff.mp hs').1
  rcases hw with hn | hf
  · have hg := List.getElem?_eq_none_iff.mp hn
    omega
  · exact absurd (List.mem_of_getElem? hf) ha

/-- A response is announced and ends, with its usage. -/
def response (id : String) (input output : ℤ) : List Act :=
  [.event { type := "response.created", responseID := id },
    .event
      { type := "response.done", responseID := id, inputTokens := input, outputTokens := output }]

/-- Two turns that are both answered, the first of them before the second begins. -/
def answeredTurns : List Act :=
  .create 1 { request := {} } :: response "a" 3 4 ++ .create 2 { request := {} } :: response "b" 5 6

lemma inOrder_of {acts : List Act} (ha : Along note Plan.Allows {} acts)
    (hc : ∀ answer ∈ (run note {} acts).answers, ∀ id ∈ answer, id ∈ (run note {} acts).finished) :
    InOrder acts :=
  ⟨ha, fun id hi => hc _ hi id rfl⟩

lemma inOrder_answeredTurns : InOrder answeredTurns := inOrder_of (by decide) (by decide)

theorem answered_turns_get_their_usage :
    InOrder answeredTurns ∧ ∀ visited : List (Act × Visit), visited.map Prod.fst = answeredTurns →
      (run step {} visited).settled = (run Plan.note {} answeredTurns).due := by
  refine ⟨inOrder_answeredTurns, (usage_to_own_turn_iff _ inOrder_answeredTurns).mpr ?_⟩
  refine ⟨trivial, ⟨fun _ => ?_, by decide⟩, ⟨?_, fun _ => rfl⟩, trivial, ⟨fun _ => ?_, by decide⟩,
    ⟨?_, fun _ => rfl⟩, trivial⟩
  · exact oldest_of_alone rfl (by decide)
  · exact fun hc => absurd hc (by decide)
  · exact oldest_of_alone rfl (by decide)
  · exact fun hc => absurd hc (by decide)

def failedTurn : List Act :=
  [.create 1 { request := {} }, .create 2 { request := {} }, .event { type := "error" }] ++
    response "b" 5 6

/-- The usage of the second turn goes to the first, which has failed. -/
theorem failed_turn_gets_the_usage : InOrder failedTurn ∧
      (run Plan.note {} failedTurn).due.map (fun x => (x.turn, x.inputTokens, x.outputTokens)) =
        [(1, 5, 6)] ∧
      (run step {} (failedTurn.map fun act => (act, plainOrder))).settled.map
        (fun x => (x.turn, x.inputTokens, x.outputTokens)) = [(0, 5, 6)] := by
  exact ⟨inOrder_of (by decide) (by decide), by decide, by decide⟩

end TokenliveGateway.WebSocketUsage
