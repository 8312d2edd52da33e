import TokenliveGateway.GatewayContext
import TokenliveGateway.GoStrings
import TokenliveGateway.KeyedEntries

/-!
# The turns of a WebSocket session

`WSSessionTracker` maps ids to the turns that are not yet settled. A turn is added under an
id of the gateway's own; when the upstream announces a response, the oldest turn with such
an id gets the id of the response, and with `response.done` the turn of that id is taken out
to be settled. The order in which Go ranges over a map is a parameter.
-/
namespace TokenliveGateway
open GoStrings KeyedEntries List

/-- `ActiveTurn`. The number of its registration stands for its address. -/
structure ActiveTurn where
  number : ℕ
  tempID : String
  responseID : String := ""
  startTime : Nanos
  sentTextTokens : ℤ := 0
  isSettled : Bool := false
  gctx : GatewayContext

/-- `generateTempID`, from the clock and the counter. -/
def generateTempID (now : Nanos) (counter : ℕ) : String :=
  "temp_turn_" ++ toString now ++ "_" ++ toString counter

/-- An id of the gateway's own. -/
def isTempID (key : String) : Bool := hasPrefix key "temp_turn_"

structure WSSessionTracker where
  turns : List (String × ActiveTurn) := []
  nodup : (turns.map Prod.fst).Nodup := by simp

/-- The order in which a range visits the entries of a map. -/
structure Visit where
  order : List (String × ActiveTurn) → List (String × ActiveTurn)
  perm : ∀ entries, (order entries).Perm entries

def plainOrder : Visit := ⟨id, fun _ => .refl _⟩

namespace WSSessionTracker
variable (t : WSSessionTracker) (key : String) (turn : ActiveTurn) (visit : Visit)

/-- `delete(t.turns, key)`. -/
def erase : WSSessionTracker where
  turns := t.turns.filter fun entry => entry.1 ≠ key
  nodup := t.nodup.sublist (List.filter_sublist.map Prod.fst)

/-- `t.turns[key] = turn`. -/
def insert : WSSessionTracker where
  turns := (key, turn) :: (t.erase key).turns
  nodup := by
    refine List.nodup_cons.mpr ⟨fun hmem => ?_, (t.erase key).nodup⟩
    obtain ⟨entry, hentry, hkey⟩ := List.mem_map.mp hmem
    have hne : entry.1 ≠ key := by simpa using (List.mem_filter.mp hentry).2
    exact hne hkey

def addTurn : WSSessionTracker := t.insert key turn

def getTurn : Option ActiveTurn := t.turns.lookup key

/-- One round of the loop in `AssociateLatestTempID`. -/
def earlier (target : Option (String × ActiveTurn)) (entry : String × ActiveTurn) :
    Option (String × ActiveTurn) :=
  if isTempID entry.1 then
    match target with
    | none => some entry
    | some best => if entry.2.startTime < best.2.startTime then some entry else some best
  else target

/-- The turn that `AssociateLatestTempID` looks for: the oldest under a temporary id. -/
def oldestTemp : Option (String × ActiveTurn) := (visit.order t.turns).foldl earlier none

def associateLatestTempID (officialID : String) : Option ActiveTurn × WSSessionTracker :=
  match t.oldestTemp visit with
  | none => (none, t)
  | some (targetKey, turn) =>
    let turn := { turn with responseID := officialID }
    (some turn, (t.erase targetKey).insert officialID turn)

def removeTurn : Option ActiveTurn × WSSessionTracker :=
  match t.turns.lookup key with
  | some turn => (some turn, t.erase key)
  | none => (none, t)

/-- `GetUnsettledTurns`, which leaves an empty map. -/
def getUnsettledTurns : List ActiveTurn :=
  ((visit.order t.turns).map Prod.snd).filter fun turn => !turn.isSettled

end WSSessionTracker

/-! ## Upstream events -/

/-- What `handleUpstreamEvent` decodes. -/
structure UpstreamFrame where
  type : String
  /-- `response_id` -/
  outerID : String := ""
  /-- `response.id` -/
  responseID : String := ""
  inputTokens : ℤ := 0
  outputTokens : ℤ := 0
  delta : String := ""
  partDelta : String := ""

namespace UpstreamFrame
variable (ev : UpstreamFrame)

def textDelta : String := if ev.delta = "" then ev.partDelta else ev.delta

/-- The id of a `*.delta` event. -/
def deltaID : String := if ev.outerID = "" then ev.responseID else ev.outerID

/-- The id of a `response.done` event. -/
def doneID : String := if ev.responseID = "" then ev.outerID else ev.responseID

def isDelta : Bool :=
  contains ev.type ".delta" && ev.deltaID ≠ "" && 0 < ev.textDelta.utf8ByteSize

def isDone : Bool := ev.type = "response.done" && ev.doneID ≠ ""

def isCreated : Bool := ev.type = "response.created" && ev.responseID ≠ ""

end UpstreamFrame

namespace ActiveTurn

/-- More text of the turn was sent. -/
def addText (turn : ActiveTurn) (n : ℤ) : ActiveTurn :=
  { turn with
    sentTextTokens := turn.sentTextTokens + n
    gctx := { turn.gctx with transmittedChars := turn.gctx.transmittedChars + n } }

/-- The turn with the usage of its `response.done`. -/
def complete (turn : ActiveTurn) (ev : UpstreamFrame) : ActiveTurn :=
  { turn with
    isSettled := true
    gctx := { turn.gctx with inputTokens := ev.inputTokens, outputTokens := ev.outputTokens } }

/-- The turn as the cleanup settles it. -/
def interrupt (turn : ActiveTurn) : ActiveTurn :=
  { turn with
    gctx := { turn.gctx with isStream := true, transmittedChars := turn.sentTextTokens } }

end ActiveTurn

namespace WSSessionTracker
variable (t : WSSessionTracker) (visit : Visit) (ev : UpstreamFrame)

/-- A change of the turn under a key, through its pointer. -/
def modify (key : String) (f : ActiveTurn → ActiveTurn) : WSSessionTracker where
  turns := t.turns.map fun entry => (entry.1, if entry.1 = key then f entry.2 else entry.2)
  nodup := by
    rw [List.map_map]
    exact t.nodup

/-- `response.created`: the oldest turn gets the id of the response. -/
def bindResponse : WSSessionTracker :=
  if ev.isCreated then (t.associateLatestTempID visit ev.responseID).2 else t

/-- `*.delta`: the text is counted for its turn. -/
def countText : WSSessionTracker :=
  if ev.isDelta then t.modify ev.deltaID (·.addText ev.textDelta.utf8ByteSize) else t

/-- `response.done`: the turn is taken out, with its usage. -/
def takeDone : Option ActiveTurn × WSSessionTracker :=
  if ev.isDone then
    match t.removeTurn ev.doneID with
    | (some turn, t) => (some (turn.complete ev), t)
    | (none, t) => (none, t)
  else (none, t)

/-- `handleUpstreamEvent` up to the settlement of the turn that it returns. -/
def handleUpstreamEvent : Option ActiveTurn × WSSessionTracker :=
  ((t.bindResponse visit ev).countText ev).takeDone ev

/-! ## Which turns are tracked -/

def numbers : List ℕ := t.turns.map (·.2.number)

/-- The turn that an assignment to the key would push out. -/
def displaced (key : String) : List ℕ := ((t.turns.lookup key).map (·.number)).toList

/-- The turn that an event pushes out of the map. -/
def displacedBy : List ℕ :=
  if ev.isCreated then
    match t.oldestTemp visit with
    | none => []
    | some (targetKey, _) => (t.erase targetKey).displaced ev.responseID
  else []

variable {t} {key : String} {turn : ActiveTurn}

lemma numbers_erase (h : t.turns.lookup key = some turn) :
    t.numbers.Perm (turn.number :: (t.erase key).numbers) := by
  have hp := (perm_of_lookup t.nodup h).map fun entry : String × ActiveTurn => entry.2.number
  exact hp

lemma erase_of_lookup_eq_none (h : t.turns.lookup key = none) :
    (t.erase key).turns = t.turns := filter_of_lookup_eq_none h

lemma numbers_insert (t : WSSessionTracker) (key : String) (turn : ActiveTurn) :
    ((t.insert key turn).numbers ++ t.displaced key).Perm (turn.number :: t.numbers) := by
  have hi : (t.insert key turn).numbers = turn.number :: (t.erase key).numbers := rfl
  rw [hi, cons_append]
  refine List.Perm.cons _ ?_
  cases hl : t.turns.lookup key with
  | none =>
    have he : (t.erase key).numbers = t.numbers := by
      rw [numbers, erase_of_lookup_eq_none hl, numbers]
    simp [displaced, hl, he]
  | some old =>
    simp only [displaced, hl]
    exact (perm_append_singleton _ _).trans (numbers_erase hl).symm

lemma mem_of_foldl_earlier {entries : List (String × ActiveTurn)}
    {target : Option (String × ActiveTurn)} {entry : String × ActiveTurn}
    (h : entries.foldl earlier target = some entry) :
    entry ∈ entries ∧ isTempID entry.1 = true ∨ target = some entry := by
  induction entries generalizing target with
  | nil => exact .inr h
  | cons fst rest ih =>
    rcases ih h with ⟨hr, ht⟩ | hf
    · exact .inl ⟨mem_cons_of_mem _ hr, ht⟩
    · unfold earlier at hf
      split_ifs at hf with ht
      · cases target with
        | none =>
          obtain rfl := Option.some.inj hf
          exact .inl ⟨mem_cons_self, ht⟩
        | some best =>
          dsimp only at hf
          split_ifs at hf
          · obtain rfl := Option.some.inj hf
            exact .inl ⟨mem_cons_self, ht⟩
          · exact .inr hf
      · exact .inr hf

lemma lookup_oldestTemp (h : t.oldestTemp visit = some (key, turn)) :
    t.turns.lookup key = some turn := by
  refine lookup_eq_some_of_mem t.nodup ?_
  rcases mem_of_foldl_earlier h with ⟨hm, -⟩ | hn
  · exact (visit.perm t.turns).mem_iff.mp hm
  · cases hn

lemma isTempID_oldestTemp {entry : String × ActiveTurn} (h : t.oldestTemp visit = some entry) :
    isTempID entry.1 = true := by
  rcases mem_of_foldl_earlier h with ⟨-, ht⟩ | hn
  · exact ht
  · cases hn

lemma numbers_bindResponse (t : WSSessionTracker) (visit : Visit) (ev : UpstreamFrame) :
    ((t.bindResponse visit ev).numbers ++ t.displacedBy visit ev).Perm t.numbers := by
  unfold bindResponse displacedBy associateLatestTempID
  split_ifs
  · cases ho : t.oldestTemp visit with
    | none => simp
    | some entry =>
      obtain ⟨target, turn⟩ := entry
      have hi := (t.erase target).numbers_insert ev.responseID
        { turn with responseID := ev.responseID }
      exact hi.trans (numbers_erase (lookup_oldestTemp visit ho)).symm
  · simp

lemma numbers_modify (t : WSSessionTracker) (key : String) {f : ActiveTurn → ActiveTurn}
    (hf : ∀ turn, (f turn).number = turn.number) : (t.modify key f).numbers = t.numbers := by
  unfold numbers modify
  rw [map_map]
  refine map_congr_left fun entry _ => ?_
  simp only [Function.comp_apply]
  split_ifs
  · exact hf _
  · rfl

lemma numbers_countText (t : WSSessionTracker) (ev : UpstreamFrame) :
    (t.countText ev).numbers = t.numbers := by
  unfold countText
  split_ifs
  · exact t.numbers_modify _ fun _ => rfl
  · rfl

lemma numbers_takeDone (t : WSSessionTracker) (ev : UpstreamFrame) :
    ((t.takeDone ev).1.toList.map (·.number) ++ (t.takeDone ev).2.numbers).Perm t.numbers := by
  unfold takeDone removeTurn
  split_ifs
  · cases hl : t.turns.lookup ev.doneID with
    | none => exact .refl _
    | some turn => exact (numbers_erase hl).symm
  · exact .refl _

lemma numbers_handleUpstreamEvent (t : WSSessionTracker) (visit : Visit) (ev : UpstreamFrame) :
    ((t.handleUpstreamEvent visit ev).1.toList.map (·.number) ++
      (t.handleUpstreamEvent visit ev).2.numbers ++ t.displacedBy visit ev).Perm t.numbers := by
  have ht := ((t.bindResponse visit ev).countText ev).numbers_takeDone ev
  rw [numbers_countText] at ht
  exact (ht.append_right _).trans (t.numbers_bindResponse visit ev)

/-! ## Turns are settled when they have left -/

variable (t) in
/-- No turn of the tracker is marked as settled. -/
def Unsettled : Prop := ∀ entry ∈ t.turns, entry.2.isSettled = false

variable (h : t.Unsettled)
include h

lemma Unsettled.erase (key : String) : (t.erase key).Unsettled :=
  fun entry he => h entry (mem_of_mem_filter he)

lemma Unsettled.insert (key : String) (ht : turn.isSettled = false) :
    (t.insert key turn).Unsettled := by
  intro entry he
  rcases mem_cons.mp he with rfl | hr
  · exact ht
  · exact h.erase key entry hr

lemma Unsettled.bindResponse (visit : Visit) (ev : UpstreamFrame) :
    (t.bindResponse visit ev).Unsettled := by
  unfold WSSessionTracker.bindResponse associateLatestTempID
  split_ifs
  · cases ho : t.oldestTemp visit with
    | none => exact h
    | some entry =>
      obtain ⟨target, turn⟩ := entry
      have ht := h _ (mem_of_lookup (lookup_oldestTemp visit ho))
      exact (h.erase target).insert ev.responseID ht
  · exact h

lemma Unsettled.countText (ev : UpstreamFrame) : (t.countText ev).Unsettled := by
  unfold WSSessionTracker.countText
  split_ifs
  · intro entry he
    obtain ⟨old, hold, rfl⟩ := mem_map.mp he
    split_ifs
    · exact h old hold
    · exact h old hold
  · exact h

lemma Unsettled.takeDone (ev : UpstreamFrame) : (t.takeDone ev).2.Unsettled := by
  unfold WSSessionTracker.takeDone removeTurn
  split_ifs
  · cases t.turns.lookup ev.doneID with
    | none => exact h
    | some turn => exact h.erase _
  · exact h

lemma Unsettled.handleUpstreamEvent (visit : Visit) (ev : UpstreamFrame) :
    (t.handleUpstreamEvent visit ev).2.Unsettled :=
  ((h.bindResponse visit ev).countText ev).takeDone ev

/-- All turns of the tracker are left to the cleanup. -/
lemma Unsettled.numbers_getUnsettledTurns (visit : Visit) :
    ((t.getUnsettledTurns visit).map (·.number)).Perm t.numbers := by
  have ha : t.getUnsettledTurns visit = (visit.order t.turns).map Prod.snd := by
    unfold getUnsettledTurns
    rw [filter_eq_self]
    intro turn ht
    obtain ⟨entry, he, rfl⟩ := mem_map.mp ht
    rw [h entry ((visit.perm t.turns).mem_iff.mp he)]
    rfl
  rw [ha, map_map]
  exact (visit.perm t.turns).map _

omit h

/-! ## Which turn has a key -/

@[simp] lemma lookup_erase_self (t : WSSessionTracker) (key : String) :
    (t.erase key).turns.lookup key = none := by
  rw [lookup_eq_none_iff]
  intro entry he
  have hn : entry.1 ≠ key := by simpa using (mem_filter.mp he).2
  exact bne_iff_ne.mpr hn.symm

lemma lookup_erase_of_ne {other : String} (h : other ≠ key) :
    (t.erase key).turns.lookup other = t.turns.lookup other := lookup_filter_of_ne h

@[simp] lemma lookup_insert_self (t : WSSessionTracker) (key : String) (turn : ActiveTurn) :
    (t.insert key turn).turns.lookup key = some turn := by
  simp [insert]

lemma lookup_insert_of_ne {other : String} (h : other ≠ key) :
    (t.insert key turn).turns.lookup other = t.turns.lookup other :=
  (lookup_cons_of_ne h).trans (lookup_erase_of_ne h)

lemma lookup_modify (t : WSSessionTracker) (key other : String) (f : ActiveTurn → ActiveTurn) :
    (t.modify key f).turns.lookup other =
      (t.turns.lookup other).map fun turn => if other = key then f turn else turn :=
  lookup_map_entry (fun k turn => if k = key then f turn else turn) other

/-! ## The oldest turn -/

/-- From a target on, the loop ends with it or with a strictly older turn, and with none
that is younger than another. -/
lemma foldl_earlier_some (entries : List (String × ActiveTurn)) (target : String × ActiveTurn)
    (hr : isTempID target.1 = true) :
    ∃ best, entries.foldl earlier (some target) = some best ∧ isTempID best.1 = true ∧
      (best = target ∨ best.2.startTime < target.2.startTime) ∧
      ∀ entry ∈ entries, isTempID entry.1 = true → best.2.startTime ≤ entry.2.startTime := by
  induction entries generalizing target with
  | nil => exact ⟨target, rfl, hr, .inl rfl, by simp⟩
  | cons entry rest ih =>
    rw [foldl_cons, earlier]
    split_ifs with hm holder
    · obtain ⟨best, hb, ht, hle, ha⟩ := ih entry hm
      have hf : best.2.startTime ≤ entry.2.startTime := by
        rcases hle with rfl | hl
        · exact le_rfl
        · exact hl.le
      refine ⟨best, hb, ht, .inr (hf.trans_lt holder), ?_⟩
      simpa [hf] using ha
    · obtain ⟨best, hb, ht, hle, ha⟩ := ih target hr
      have hf : best.2.startTime ≤ entry.2.startTime := by
        rcases hle with rfl | hl
        · exact not_lt.mp holder
        · exact hl.le.trans (not_lt.mp holder)
      refine ⟨best, hb, ht, hle, ?_⟩
      simpa [hf] using ha
    · obtain ⟨best, hb, ht, hle, ha⟩ := ih target hr
      refine ⟨best, hb, ht, hle, ?_⟩
      simpa [hm] using ha

/-- The loop finds one of the oldest turns, if there is a turn to find. -/
lemma foldl_earlier_none {entries : List (String × ActiveTurn)}
    (hs : ∃ entry ∈ entries, isTempID entry.1 = true) :
    ∃ best, entries.foldl earlier none = some best ∧ isTempID best.1 = true ∧
      ∀ entry ∈ entries, isTempID entry.1 = true → best.2.startTime ≤ entry.2.startTime := by
  induction entries with
  | nil => simp at hs
  | cons entry rest ih =>
    rw [foldl_cons, earlier]
    split_ifs with hm
    · obtain ⟨best, hb, ht, hle, ha⟩ := foldl_earlier_some rest entry hm
      have hfr : best.2.startTime ≤ entry.2.startTime := by
        rcases hle with rfl | hl
        · exact le_rfl
        · exact hl.le
      refine ⟨best, hb, ht, ?_⟩
      simpa [hfr] using ha
    · obtain ⟨found, hn, hf⟩ := hs
      have hr : found ∈ rest := by
        rcases mem_cons.mp hn with rfl | hr
        · exact absurd hf hm
        · exact hr
      obtain ⟨best, hb, ht, ha⟩ := ih ⟨found, hr, hf⟩
      refine ⟨best, hb, ht, ?_⟩
      simpa [hm] using ha

/-- The one oldest turn is found in every order. -/
lemma oldestTemp_eq (visit : Visit) (hl : t.turns.lookup key = some turn) (ht : isTempID key = true)
    (hol : ∀ other turn', other ≠ key → t.turns.lookup other = some turn' →
      isTempID other = true → turn.startTime < turn'.startTime) :
    t.oldestTemp visit = some (key, turn) := by
  have hm : (key, turn) ∈ visit.order t.turns := (visit.perm t.turns).mem_iff.mpr (mem_of_lookup hl)
  obtain ⟨⟨other, turn'⟩, hb, hbt, ha⟩ := foldl_earlier_none ⟨(key, turn), hm, ht⟩
  have ho := lookup_oldestTemp visit hb
  by_cases hk : other = key
  · subst hk
    rw [hl] at ho
    obtain rfl := Option.some.inj ho
    exact hb
  · exact absurd (ha _ hm ht) (not_le.mpr (hol other turn' hk ho hbt))

/-- The order that visits the entry of a key first. -/
def visitFirst (key : String) : Visit where
  order entries := entries.filter (fun entry => entry.1 = key) ++
    entries.filter fun entry => entry.1 ≠ key
  perm entries := by
    have hsplit := List.filter_append_perm
      (fun entry : String × ActiveTurn => decide (entry.1 = key)) entries
    simpa using hsplit

/-- A turn that is visited first is found, or a strictly older one. -/
lemma oldestTemp_visitFirst (hl : t.turns.lookup key = some turn) (ht : isTempID key = true) :
    ∃ best, t.oldestTemp (visitFirst key) = some best ∧ isTempID best.1 = true ∧
      (best = (key, turn) ∨ best.2.startTime < turn.startTime) := by
  have hf := filter_of_lookup t.nodup hl
  obtain ⟨best, hb, hbt, hle, -⟩ := foldl_earlier_some
    (t.turns.filter fun entry => entry.1 ≠ key) (key, turn) ht
  refine ⟨best, ?_, hbt, hle⟩
  unfold oldestTemp visitFirst
  dsimp only
  rw [hf, singleton_append, foldl_cons, earlier, if_pos ht]
  exact hb

end WSSessionTracker
end TokenliveGateway
