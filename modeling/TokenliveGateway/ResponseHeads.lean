import Mathlib.Data.List.Basic

/-!
# The heads of responses

Several parties use one response writer. Headers are set under keys until somebody writes
the status; what was set by then is the head of the response. Every header value carries the
party that has set it, and so the parties whose values are in the head can be read off the
calls that were made before the status.
-/
namespace TokenliveGateway.ResponseHeads
variable {S : Type*}

structure HeaderValue (S : Type*) where
  text : String
  setBy : Option S

/-- The status and the headers of a response. -/
structure Head (S : Type*) where
  status : ℕ
  writtenBy : Option S
  headers : String → List (HeaderValue S)

structure Writer (S : Type*) where
  headers : String → List (HeaderValue S)
  head : Option (Head S) := none

inductive Call (S : Type*) where
  | set (party : Option S) (key text : String)
  /-- adds to every header the values it has -/
  | addAgain
  | writeHeader (party : Option S) (status : ℕ)

namespace Writer
variable (w : Writer S)

/-- Setting a header replaces the values it has, and only the first status counts. -/
def perform : Call S → Writer S
  | .set party key text => { w with headers := Function.update w.headers key [⟨text, party⟩] }
  | .addAgain => { w with headers := fun key => w.headers key ++ w.headers key }
  | .writeHeader party status => match w.head with
    | none => { w with head := some ⟨status, party, w.headers⟩ }
    | some _ => w

end Writer

namespace Call

def writesHead : Call S → Bool
  | writeHeader _ _ => true
  | _ => false

/-- The last party to set a key, after the call. -/
def setter (key : String) (last : Option S) : Call S → Option S
  | set party key' _ => if key' = key then party else last
  | _ => last

end Call

/-- The party whose call was the last to set a key. -/
def lastSetter (calls : List (Call S)) (key : String) : Option S :=
  calls.foldl (fun last c => c.setter key last) none

/-- The values of a key are those of the party that has set it last. -/
def Marks (headers : String → List (HeaderValue S)) (last : String → Option S) : Prop :=
  ∀ key, (∀ v ∈ headers key, v.setBy = last key) ∧ (last key ≠ none → headers key ≠ [])

lemma Marks.exists_iff {headers : String → List (HeaderValue S)} {last : String → Option S}
    (h : Marks headers last) (key : String) (party : S) :
    (∃ v ∈ headers key, v.setBy = some party) ↔ last key = some party := by
  constructor
  · rintro ⟨v, hv, hp⟩
    rw [← (h key).1 v hv]
    exact hp
  · intro hl
    obtain ⟨v, hv⟩ := List.exists_mem_of_ne_nil _ ((h key).2 (by simp [hl]))
    exact ⟨v, hv, ((h key).1 v hv).trans hl⟩

variable {w : Writer S} {last : String → Option S}

lemma Marks.perform (h : Marks w.headers last) (c : Call S) :
    Marks (w.perform c).headers fun key => c.setter key (last key) := by
  intro key
  obtain ⟨hv, hn⟩ := h key
  cases c with
  | set party key' text =>
    by_cases hk : key' = key
    · subst hk
      simp [Writer.perform, Call.setter]
    · simpa [Writer.perform, Call.setter, hk, Ne.symm hk] using h key
  | addAgain =>
    refine ⟨fun v hm => ?_, fun hl => List.append_ne_nil_of_left_ne_nil (hn hl) _⟩
    rcases List.mem_append.mp hm with hm | hm <;> exact hv v hm
  | writeHeader party status =>
    have hh : (w.perform (.writeHeader party status)).headers = w.headers := by
      cases hd : w.head <;> simp [Writer.perform, hd]
    rw [hh]
    exact ⟨hv, hn⟩

lemma Marks.foldl (h : Marks w.headers last) (calls : List (Call S)) :
    Marks (calls.foldl Writer.perform w).headers
      fun key => calls.foldl (fun last c => c.setter key last) (last key) := by
  induction calls generalizing w last with
  | nil => exact h
  | cons c calls ih => exact ih (h.perform c)

lemma head_foldl_of_some {head : Head S} (h : w.head = some head) (calls : List (Call S)) :
    (calls.foldl Writer.perform w).head = some head := by
  induction calls generalizing w with
  | nil => exact h
  | cons c calls ih =>
    refine ih ?_
    cases c <;> simp [Writer.perform, h]

lemma head_foldl_of_none {calls : List (Call S)} (hc : ∀ c ∈ calls, c.writesHead = false) :
    (calls.foldl Writer.perform w).head = w.head := by
  induction calls generalizing w with
  | nil => rfl
  | cons c calls ih =>
    have h := hc c List.mem_cons_self
    rw [List.foldl_cons, ih fun c' hc' => hc c' (List.mem_cons_of_mem _ hc')]
    cases c with
    | set | addAgain => rfl
    | writeHeader => cases h

/-- The first call that writes the status fixes the head. -/
lemma head_foldl (hw : w.head = none) {before rest : List (Call S)} {party : Option S}
    {status : ℕ} (hc : ∀ c ∈ before, c.writesHead = false) :
    ((before ++ .writeHeader party status :: rest).foldl Writer.perform w).head =
      some ⟨status, party, (before.foldl Writer.perform w).headers⟩ := by
  rw [List.foldl_append, List.foldl_cons]
  refine head_foldl_of_some ?_ rest
  simp [Writer.perform, head_foldl_of_none hc, hw]

lemma exists_first (calls : List (Call S)) : (∀ c ∈ calls, c.writesHead = false) ∨
    ∃ before party status rest, calls = before ++ .writeHeader party status :: rest ∧
      ∀ c ∈ before, c.writesHead = false := by
  induction calls with
  | nil => exact .inl (by simp)
  | cons c calls ih =>
    cases hc : c.writesHead with
    | true =>
      cases c with
      | writeHeader party status => exact .inr ⟨[], party, status, calls, rfl, by simp⟩
      | set | addAgain => cases hc
    | false =>
      rcases ih with h | ⟨before, party, status, rest, rfl, h⟩
      · exact .inl (by simpa [hc] using h)
      · exact .inr ⟨c :: before, party, status, rest, rfl, by simpa [hc] using h⟩

/-- The other party did not write the status first, and was for no key the last to set it
before. -/
def Undisturbed (calls : List (Call S)) (other : S) : Prop :=
  ∀ before party status rest, calls = before ++ .writeHeader party status :: rest →
    (∀ c ∈ before, c.writesHead = false) →
    party ≠ some other ∧ ∀ key, lastSetter before key ≠ some other

lemma undisturbed_iff (hw : w.head = none) (hm : Marks w.headers fun _ => none)
    (calls : List (Call S)) (other : S) :
    (∀ head, (calls.foldl Writer.perform w).head = some head →
      head.writtenBy ≠ some other ∧ ∀ key, ∀ v ∈ head.headers key, v.setBy ≠ some other) ↔
      Undisturbed calls other := by
  have hs : ∀ before key, (∀ v ∈ (before.foldl Writer.perform w).headers key,
      v.setBy ≠ some other) ↔ lastSetter before key ≠ some other := by
    intro before key
    rw [← not_iff_not, Ne, not_not, lastSetter, ← (hm.foldl before).exists_iff key other]
    simp
  constructor
  · rintro h before party status rest rfl hc
    obtain ⟨hp, hh⟩ := h _ (head_foldl hw hc)
    exact ⟨hp, fun key => (hs before key).mp (hh key)⟩
  · intro h head hh
    rcases exists_first calls with hn | ⟨before, party, status, rest, rfl, hc⟩
    · rw [head_foldl_of_none hn, hw] at hh
      cases hh
    · obtain rfl := Option.some.inj ((head_foldl hw hc).symm.trans hh)
      obtain ⟨hp, hl⟩ := h before party status rest rfl hc
      exact ⟨hp, fun key => (hs before key).mpr (hl key)⟩

end TokenliveGateway.ResponseHeads
