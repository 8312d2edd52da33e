import TokenliveGateway.CreditAccount

/-!
# The validation of API keys

`ValidateKey` for a provider that may answer anything. A record is checked when it is
fetched and then served from the cache; the check is not made again. What can be said of a
record that a call returns is that it was enabled and not expired at most 30 seconds before.
-/
namespace TokenliveGateway.KeyValidation
open CreditAccount Service LabelledRuns ExpirableCache

/-- `ValidateKey`, where the provider gives the answer. -/
def validateKey (s : Service) (key : String) (answer : Answer) : Ending ApiKeyInfo × Service :=
  s.validateWith key (answer, s.provider)

/-- A call at some time, or something else that changes the cache: the LRU drops an entry, a
deduction removes a key, a configuration is reloaded. -/
inductive Act where
  | call (key : String) (now : Nanos) (answer : Answer)
  | evict (key : String) (value : Bool)
  | remove (key : String)
  | purge

def ending (s : Service) (key : String) (now : Nanos) (answer : Answer) : Ending ApiKeyInfo :=
  (validateKey { s with now := now } key answer).1

def step (s : Service) : Act → Service
  | .call key now answer => (validateKey { s with now := now } key answer).2
  | .evict key value => { s with cache := s.cache.evict key value }
  | .remove key => { s with cache := s.cache.remove key }
  | .purge => { s with cache := s.cache.purge }

/-- `Unix` of an instant. -/
def unix (now : Nanos) : ℤ := now / 10 ^ 9

/-- The record is enabled and, at the time `now`, not expired. -/
def Current (info : ApiKeyInfo) (now : Nanos) : Prop :=
  info.status = 1 ∧ (info.expiresAt = 0 ∨ unix now ≤ info.expiresAt)

/-- The call does not panic, and returns only a record that is current. -/
def Safe (s : Service) : Act → Prop
  | .call key now answer =>
    ending s key now answer ≠ .panics ∧
      ∀ info, ending s key now answer = .returns (.ok info) → Current info now
  | _ => True

/-- No cached record has expired since it was cached. And what is asked of the provider: an
error only for a key of eight bytes or more, no nil pointer without an error, and no
negative expiry. -/
def Sound (s : Service) : Act → Prop
  | .call key now answer =>
    (∀ info, s.cache.get key now = some (.ok info) →
        info.expiresAt = 0 ∨ unix now ≤ info.expiresAt) ∧
      (s.cache.get key now = none →
        (∀ err, answer = .error err → 8 ≤ key.utf8ByteSize) ∧ answer ≠ .ok none ∧
          ∀ item, answer = .ok (some item) → item.status = 1 → item.expiresAt < 0 →
            unix now ≤ item.expiresAt)
  | _ => True

/-- A call returns only a record that is enabled and was not expired 30 seconds before. -/
def Recent (s : Service) : Act → Prop
  | .call key now answer =>
    ∀ info, ending s key now answer = .returns (.ok info) → info.status = 1 ∧
      (info.expiresAt ≤ 0 ∨ unix (now - 30 * 10 ^ 9) ≤ info.expiresAt)
  | _ => True

section
variable {s : Service} {key : String} {ans : Answer}

lemma validateKey_refused {em : String} (h : s.cache.get key s.now = some (.error em)) :
    validateKey s key ans = (.returns (.error (.other em)), s) := by
  simp [validateKey, validateWith, h]

lemma validateKey_cached {info : ApiKeyInfo} (h : s.cache.get key s.now = some (.ok info)) :
    validateKey s key ans = (.returns (.ok info), s) := by
  simp [validateKey, validateWith, h]

variable (h : s.cache.get key s.now = none)
include h

lemma validateKey_fails {err : GoError} : validateKey s key (.error err) =
      if key.utf8ByteSize < 8 then (.panics, s)
      else returning (s.refuse key "invalid API key") := by
  simp [validateKey, validateWith, h]

lemma validateKey_nil : validateKey s key (.ok none) = (.panics, s) := by
  simp [validateKey, validateWith, h]

lemma validateKey_fetched {item : ApiKeyInfo} :
    validateKey s key (.ok (some item)) = returning (s.acceptRecord key item) := by
  simp [validateKey, validateWith, h]

omit h

lemma acceptRecord_eq_ok {item info : ApiKeyInfo} : (s.acceptRecord key item).1 = .ok info ↔
      item = info ∧ item.status = 1 ∧ (item.expiresAt ≤ 0 ∨ unix s.now ≤ item.expiresAt) := by
  have hx : s.unixNow = unix s.now := rfl
  unfold Service.acceptRecord Service.refuse
  split_ifs with hs he
  · simp [hs]
  · have hn : ¬(item.expiresAt ≤ 0 ∨ unix s.now ≤ item.expiresAt) := by
      omega
    simp [hn]
  · have hu : item.expiresAt ≤ 0 ∨ unix s.now ≤ item.expiresAt := by
      omega
    simp [not_not.mp hs, hu]

/-- A call succeeds with what is cached, or with what is fetched and passes the checks. -/
lemma validateKey_eq_ok {info : ApiKeyInfo} : (validateKey s key ans).1 = .returns (.ok info) ↔
      s.cache.get key s.now = some (.ok info) ∨
        s.cache.get key s.now = none ∧ ans = .ok (some info) ∧ info.status = 1 ∧
          (info.expiresAt ≤ 0 ∨ unix s.now ≤ info.expiresAt) := by
  cases hg : s.cache.get key s.now with
  | some cached =>
    cases cached with
    | error em => simp [validateKey_refused hg]
    | ok ci => simp [validateKey_cached hg]
  | none =>
    cases ans with
    | error err =>
      rw [validateKey_fails hg]
      split_ifs <;> simp [returning, Service.refuse]
    | ok ans =>
      cases ans with
      | none => simp [validateKey_nil hg]
      | some item =>
        rw [validateKey_fetched hg, returning]
        simp only [Ending.returns.injEq, acceptRecord_eq_ok]
        constructor
        · rintro ⟨rfl, hc⟩
          exact .inr ⟨trivial, rfl, hc⟩
        · rintro (hcc | ⟨-, hi, hc⟩)
          · cases hcc
          · cases hi
            exact ⟨rfl, hc⟩

lemma validateKey_eq_panics : (validateKey s key ans).1 = .panics ↔
      s.cache.get key s.now = none ∧
        ((∃ err, ans = .error err) ∧ key.utf8ByteSize < 8 ∨ ans = .ok none) := by
  cases hg : s.cache.get key s.now with
  | some cached =>
    cases cached with
    | error em => simp [validateKey_refused hg]
    | ok ci => simp [validateKey_cached hg]
  | none =>
    cases ans with
    | error err =>
      rw [validateKey_fails hg]
      split_ifs with hs <;> simp [returning, hs]
    | ok ans =>
      cases ans with
      | none => simp [validateKey_nil hg]
      | some item => simp [validateKey_fetched hg, returning]

lemma validTTL_validateKey : (validateKey s key ans).2.cache.validTTL = s.cache.validTTL := by
  unfold validateKey validateWith
  split
  · rfl
  · rfl
  · dsimp only
    split
    · split_ifs <;> rfl
    · rfl
    · unfold returning Service.acceptRecord
      split_ifs <;> rfl

/-- A record in the cache after a call was there before, or the call fetched it and it has
passed the checks. -/
lemma valid_of_validateKey {key' : String} {entry : CacheEntry ApiKeyInfo}
    (he : (validateKey s key ans).2.cache.valid key' = some entry) :
    s.cache.valid key' = some entry ∨
      (key' = key ∧ ans = .ok (some entry.value) ∧ entry.expiresAt = s.now + s.cache.validTTL ∧
        entry.value.status = 1 ∧ (entry.value.expiresAt ≤ 0 ∨
          unix s.now ≤ entry.value.expiresAt)) := by
  cases hg : s.cache.get key s.now with
  | some cached =>
    left
    cases cached with
    | error em => rwa [validateKey_refused hg] at he
    | ok info => rwa [validateKey_cached hg] at he
  | none =>
    cases ans with
    | error err =>
      left
      rw [validateKey_fails hg] at he
      split_ifs at he <;> exact he
    | ok ans =>
      cases ans with
      | none =>
        left
        rwa [validateKey_nil hg] at he
      | some item =>
        have hok : (s.acceptRecord key item).1 = .ok item ↔ _ := acceptRecord_eq_ok
        rw [validateKey_fetched hg] at he
        unfold returning Service.acceptRecord at he
        unfold Service.acceptRecord at hok
        split_ifs at he hok
        · exact .inl he
        · exact .inl he
        · obtain ⟨-, hs, hu⟩ := hok.mp rfl
          by_cases hk : key' = key
          · subst hk
            simp only [addValid, Function.update_self, Option.some.injEq] at he
            subst he
            exact .inr ⟨rfl, rfl, rfl, hs, hu⟩
          · simp only [addValid, Function.update_of_ne hk] at he
            exact .inl he

end

/-- Every cached record has passed the checks, 30 seconds before it leaves the cache. -/
structure Vetted (s : Service) : Prop where
  ttl : s.cache.validTTL = 30 * 10 ^ 9
  checked : ∀ key entry, s.cache.valid key = some entry → entry.value.status = 1 ∧
    (entry.value.expiresAt ≤ 0 ∨ unix (entry.expiresAt - 30 * 10 ^ 9) ≤ entry.value.expiresAt)

namespace Vetted
variable {s : Service} (h : Vetted s)
include h

lemma of_subset (s' : Service) (ht : s'.cache.validTTL = s.cache.validTTL)
    (hv : ∀ key entry, s'.cache.valid key = some entry → s.cache.valid key = some entry) :
    Vetted s' :=
  ⟨ht.trans h.ttl, fun key entry he => h.checked key entry (hv key entry he)⟩

lemma validateKey (key : String) (ans : Answer) :
    Vetted (KeyValidation.validateKey s key ans).2 := by
  refine ⟨validTTL_validateKey.trans h.ttl, fun key' entry he => ?_⟩
  rcases valid_of_validateKey he with he | ⟨-, -, ht, hs, hu⟩
  · exact h.checked key' entry he
  · rw [ht, h.ttl, add_sub_cancel_right]
    exact ⟨hs, hu⟩

lemma step (act : Act) : Vetted (step s act) := by
  cases act with
  | call key now ans =>
    exact validateKey (h.of_subset { s with now := now } rfl fun _ _ he => he) key ans
  | evict key val =>
    refine h.of_subset _ ?_ fun _ _ he => valid_of_evict he
    cases val <;> rfl
  | remove key =>
    exact h.of_subset _ rfl fun _ _ he => (valid_of_remove he).2
  | purge => exact h.of_subset _ rfl fun _ _ he => by cases he

/-- A record that is served was checked at most 30 seconds before. -/
lemma served {key : String} {now : Nanos} {info : ApiKeyInfo}
    (hg : s.cache.get key now = some (.ok info)) :
    info.status = 1 ∧ (info.expiresAt ≤ 0 ∨ unix (now - 30 * 10 ^ 9) ≤ info.expiresAt) := by
  obtain ⟨entry, he, rfl, hn⟩ := exists_of_get_ok hg
  obtain ⟨hs, hx⟩ := h.checked key entry he
  refine ⟨hs, hx.imp_right fun hl => ?_⟩
  have hm : unix (now - 30 * 10 ^ 9) ≤ unix (entry.expiresAt - 30 * 10 ^ 9) :=
    Int.ediv_le_ediv (by decide) (sub_le_sub_right hn _)
  exact hm.trans hl

lemma recent (act : Act) : Recent s act := by
  cases act with
  | call key now ans =>
    intro info he
    rcases (validateKey_eq_ok (s := { s with now := now })).mp he with
      hc | ⟨-, -, hs, hx⟩
    · exact h.served hc
    · refine ⟨hs, hx.imp_right fun hl => ?_⟩
      have hm : unix (now - 30 * 10 ^ 9) ≤ unix now := Int.ediv_le_ediv (by decide) (by omega)
      exact hm.trans hl
  | evict key val => trivial
  | remove key => trivial
  | purge => trivial

lemma safe_iff_sound (act : Act) : Safe s act ↔ Sound s act := by
  cases act with
  | call key now ans =>
    unfold Safe Sound ending
    simp only [Ne, validateKey_eq_panics, validateKey_eq_ok]
    constructor
    · rintro ⟨hp, hr⟩
      refine ⟨fun info hc => (hr info (.inl hc)).2, fun hm => ⟨?_, ?_, ?_⟩⟩
      · intro err he
        by_contra hsh
        exact hp ⟨hm, .inl ⟨⟨err, he⟩, not_le.mp hsh⟩⟩
      · exact fun hn => hp ⟨hm, .inr hn⟩
      · intro item hi hs hg
        obtain ⟨-, hx⟩ := hr item (.inr ⟨hm, hi, hs, .inl hg.le⟩)
        exact hx.resolve_left hg.ne
    · rintro ⟨hc, hf⟩
      refine ⟨?_, fun info hin => ?_⟩
      · rintro ⟨hm, ⟨⟨err, he⟩, hsh⟩ | hn⟩
        · exact absurd ((hf hm).1 err he) (not_le.mpr hsh)
        · exact (hf hm).2.1 hn
      · rcases hin with hh | ⟨hm, hi, hs, hx⟩
        · exact ⟨(h.served hh).1, hc info hh⟩
        · refine ⟨hs, ?_⟩
          rcases lt_trichotomy info.expiresAt 0 with hg | hzero | hps
          · exact .inr ((hf hm).2.2 info hi hs hg)
          · exact .inl hzero
          · exact .inr (hx.resolve_left (not_le.mpr hps))
  | evict key val => exact Iff.rfl
  | remove key => exact Iff.rfl
  | purge => exact Iff.rfl

end Vetted

/-- Every cached record was fetched by a call of the run, 30 seconds before it leaves the
cache. -/
def Fetched (acts : List Act) (s : Service) : Prop :=
  ∀ key entry, s.cache.valid key = some entry → ∃ fetched,
    .call key fetched (.ok (some entry.value)) ∈ acts ∧ entry.expiresAt = fetched + 30 * 10 ^ 9

namespace Fetched
variable {acts : List Act} {s : Service}

lemma step (h : Fetched acts s) (hv : Vetted s) (act : Act) :
    Fetched (acts ++ [act]) (step s act) := by
  have hkept : ∀ key entry, s.cache.valid key = some entry → ∃ fetched,
      .call key fetched (.ok (some entry.value)) ∈ acts ++ [act] ∧
        entry.expiresAt = fetched + 30 * 10 ^ 9 := by
    intro key entry he
    obtain ⟨fetched, hm, ht⟩ := h key entry he
    exact ⟨fetched, List.mem_append_left _ hm, ht⟩
  intro key entry he
  cases act with
  | call key' now ans =>
    rcases valid_of_validateKey he with he | ⟨rfl, rfl, ht, -⟩
    · exact hkept key entry he
    · exact ⟨now, by simp, by rw [ht]; exact congrArg (now + ·) hv.ttl⟩
  | evict key' val => exact hkept key entry (valid_of_evict he)
  | remove key' => exact hkept key entry (valid_of_remove he).2
  | purge => cases he

lemma run (h : Fetched acts s) (hv : Vetted s) (more : List Act) :
    Fetched (acts ++ more) (run KeyValidation.step s more) := by
  induction more generalizing acts s with
  | nil => rwa [List.append_nil]
  | cons act more ih =>
    have hnext := ih (h.step hv act) (hv.step act)
    rwa [List.append_assoc] at hnext

end Fetched

lemma vetted_new (provider : CreditAccount.Provider) (now : Nanos) :
    Vetted (newApiKeyService provider now) :=
  ⟨rfl, fun _ _ he => by cases he⟩

/-- The calls of a run do not panic and return only current records iff no cached record
expires before it leaves the cache, the provider answers no key of fewer than eight bytes
with an error, gives a record where it gives no error, and no negative expiry. In every run,
a record that a call returns is enabled and was not expired 30 seconds before; and one that
the next call finds in the cache was fetched by a call for its key, at most 30 seconds before
and not after its expiry. -/
theorem validation_safe_iff (provider : CreditAccount.Provider) (start : Nanos) (acts : List Act) :
    (Along step Safe (newApiKeyService provider start) acts ↔
        Along step Sound (newApiKeyService provider start) acts) ∧
      Along step Recent (newApiKeyService provider start) acts ∧
      ∀ key now info,
        (run step (newApiKeyService provider start) acts).cache.get key now = some (.ok info) →
          ∃ fetched, .call key fetched (.ok (some info)) ∈ acts ∧ now ≤ fetched + 30 * 10 ^ 9 ∧
            (info.expiresAt ≤ 0 ∨ unix fetched ≤ info.expiresAt) := by
  have hv := vetted_new provider start
  refine ⟨?_, ?_, ?_⟩
  · exact along_congr step Vetted (fun _ act h => h.step act)
      (fun _ act h => h.safe_iff_sound act) hv acts
  · exact along_of_invariant step Vetted (fun _ act h => h.step act) (fun _ act h => h.recent act)
      hv acts
  · intro key now info hg
    have hf : Fetched [] (newApiKeyService provider start) := fun _ _ he => by cases he
    obtain ⟨entry, he, rfl, hn⟩ := exists_of_get_ok hg
    obtain ⟨fetched, hm, ht⟩ := hf.run hv acts key entry he
    obtain ⟨-, hx⟩ := (run_invariant step Vetted (fun _ act h => h.step act) hv acts).checked
      key entry he
    rw [ht, add_sub_cancel_right] at hx
    exact ⟨fetched, hm, ht ▸ hn, hx⟩

def expiring : ApiKeyInfo := { userID := "u", credits := -1, expiresAt := 100 }

/-- A service without stored records, which no call here reads. -/
def emptyService : Service := newApiKeyService (.redis fun _ => none) 0

/-- An unknown key of three bytes. And a record that is fetched at the second 95 and returned
at the second 110, ten seconds after it has expired. -/
theorem short_key_panics_and_expired_key_passes :
    ending emptyService "abc" 0 (.error (.other "api key not found in redis")) = .panics ∧
      ending emptyService "sk-12345678" (95 * 10 ^ 9) (.ok (some expiring)) =
        .returns (.ok expiring) ∧
      ending (step emptyService (.call "sk-12345678" (95 * 10 ^ 9) (.ok (some expiring))))
        "sk-12345678" (110 * 10 ^ 9) (.ok (some expiring)) = .returns (.ok expiring) ∧
      ¬Current expiring (110 * 10 ^ 9) := by
  refine ⟨?_, ?_, ?_, ?_⟩
  · decide
  · decide
  · decide
  · simp [Current, unix, expiring]

end TokenliveGateway.KeyValidation
