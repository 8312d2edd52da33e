import TokenliveGateway.BreakerAttempts

/-!
# The permit invariant of the circuit breaker

The manager refines the fenced permits of `FencedPermits`: an entry is a slot,
an attempt a holder, its unreturned permits are its tickets. Each atomic step is
a sequence of moves there, and a legacy acquisition an anonymous take. The
invariants over all interleavings come from that refinement.
-/
namespace TokenliveGateway.Breaker
open FencedPermits LabelledRuns Manager List Attempt Entry Permit Function Entry

/-- The moves of a permit system, any number of them. -/
abbrev Moves : Registry String ℕ → Registry String ℕ → Prop := Relation.ReflTransGen Move

def Permit.ticket (p : Permit) : Ticket String := ⟨p.key, p.epoch, p.token⟩

def Manager.registry (s : Manager) : Registry String ℕ where
  slot := fun key => (s.entries key).slot
  held := fun id => (s.attempts id).unreturned.map Permit.ticket

namespace Manager
variable (s : Manager)

lemma registry_setEntry (key : String) (e : Entry) :
    (s.setEntry key e).registry = s.registry.setSlot key e.slot := by
  unfold registry setEntry Registry.setSlot
  congr 1
  funext key'
  by_cases hk : key' = key
  · subst hk
    simp
  · simp [update_of_ne hk]

lemma registry_setAttempt (id : ℕ) (a : Attempt) :
    (s.setAttempt id a).registry = s.registry.setHeld id (a.unreturned.map ticket) := by
  unfold registry setAttempt Registry.setHeld
  congr 1
  funext id'
  by_cases hi : id' = id
  · subst hi
    simp
  · simp [update_of_ne hi]

lemma setSlot_self (key : String) : s.registry.setSlot key (s.entries key).slot = s.registry := by
  unfold Registry.setSlot
  congr 1
  exact update_eq_self key _

lemma setHeld_self (id : ℕ) :
    s.registry.setHeld id ((s.attempts id).unreturned.map ticket) = s.registry := by
  unfold Registry.setHeld
  congr 1
  exact update_eq_self id _

end Manager

variable {s : Manager} {id : ℕ} {id' : ℕ} {key : String} {e : Entry} {p : Permit}

lemma moves_setEntry (h : Evolves (s.entries key) e) :
    Moves s.registry (s.setEntry key e).registry := by
  rw [s.registry_setEntry]
  rcases h with h | h
  · rw [h, s.setSlot_self]
  · exact .single (.advance s.registry key e.slot h)

variable {a : Attempt} {p' : Permit}

lemma moves_setAttempt_of_eq (h : a.unreturned.map ticket = (s.attempts id).unreturned.map ticket) :
    Moves s.registry (s.setAttempt id a).registry := by
  rw [s.registry_setAttempt, h, s.setHeld_self]

/-- An attempt may exchange permits that are not live. -/
lemma moves_setAttempt {ps : List Permit} (hun : (s.attempts id).unreturned = ps)
    (hk : ∀ p ∈ ps, s.registry.Live p.ticket → p ∈ a.unreturned)
    (hg : ∀ p ∈ a.unreturned, p ∈ ps ∨ p.token = 0) :
    Moves s.registry (s.setAttempt id a).registry := by
  subst hun
  rw [s.registry_setAttempt]
  refine .single (.exchange s.registry id _ ?_ ?_)
  · intro t ht hl
    obtain ⟨p, hp, rfl⟩ := mem_map.mp ht
    exact mem_map_of_mem (hk p hp hl)
  · intro t ht
    obtain ⟨p, hp, rfl⟩ := mem_map.mp ht
    exact (hg p hp).imp mem_map_of_mem fun hzero => hzero

/-! ## Permits of an attempt -/

variable {ps : List Permit}

lemma mem_replacePermit_of_ne (hp : p ∈ ps) (hk : p.key ≠ key) : p ∈ replacePermit key p' ps := by
  induction ps with
  | nil => cases hp
  | cons q ps ih =>
    unfold replacePermit
    split
    · rename_i hq
      rcases mem_cons.mp hp with rfl | hp
      · exact absurd hq hk
      · exact mem_cons_of_mem _ hp
    · rcases mem_cons.mp hp with rfl | hp
      · exact mem_cons_self
      · exact mem_cons_of_mem _ (ih hp)

lemma mem_of_mem_replacePermit (hp : p ∈ replacePermit key p' ps) : p ∈ ps ∨ p = p' := by
  induction ps with
  | nil => cases hp
  | cons q ps ih =>
    unfold replacePermit at hp
    split at hp
    · rcases mem_cons.mp hp with rfl | hp
      · exact .inr rfl
      · exact .inl (mem_cons_of_mem _ hp)
    · rcases mem_cons.mp hp with rfl | hp
      · exact .inl mem_cons_self
      · exact (ih hp).imp (mem_cons_of_mem _) id

/-- Replacing the first permit of a key by one with the same ticket. -/
lemma map_ticket_replacePermit (hf : ps.find? (fun q => q.key = key) = some p)
    (ht : p'.ticket = p.ticket) : (replacePermit key p' ps).map ticket = ps.map ticket := by
  induction ps with
  | nil => cases hf
  | cons q ps ih =>
    unfold replacePermit
    by_cases hq : q.key = key
    · rw [find?_cons_of_pos (by simpa using hq)] at hf
      obtain rfl := Option.some.inj hf
      simp [hq, ht]
    · rw [find?_cons_of_neg (by simpa using hq)] at hf
      simp [hq, ih hf]

/-! ## Each step is a sequence of moves -/

@[simp] lemma Entry.slot_withModel (e : Entry) (modelCode : String) :
    (e.withModel modelCode).slot = e.slot := by
  unfold withModel
  split <;> rfl

/-- An acquisition computes the state and then either leaves the slot alone, or
finds it half-open and free and hands out its next token. -/
lemma Entry.acquirePermit_cases (e : Entry) (key : String) (now : Nanos) (enableActive : Bool) :
    (∃ allowed permit,
      e.acquirePermit key now enableActive = (allowed, permit, e.computeState now) ∧
      permit.token = 0) ∨
    ((e.computeState now).state = .circuitHalfOpen ∧ (e.computeState now).activeCalls < 1 ∧
      ∃ ver, e.acquirePermit key now enableActive = (true,
          ⟨key, (e.computeState now).attemptEpoch, (e.computeState now).nextToken + 1, ver⟩,
          { e.computeState now with
            nextToken := (e.computeState now).nextToken + 1
            permitToken := (e.computeState now).nextToken + 1
            activeCalls := (e.computeState now).activeCalls + 1 })) := by
  unfold acquirePermit
  dsimp only
  split
  · exact .inl ⟨_, _, rfl, rfl⟩
  · split
    · rename_i h
      exact .inr ⟨h.1, h.2.2, _, rfl⟩
    · exact .inl ⟨_, _, rfl, rfl⟩

lemma moves_acquireKey {keys : List String} (now : Nanos) (enableActive : Bool)
    (hph : (s.attempts id).phase = .acquiring (key :: keys)) :
    Moves s.registry (s.acquireKey id key keys now enableActive).registry := by
  have hun : (s.attempts id).unreturned = (s.attempts id).permits := by
    simp [unreturned, hph]
  unfold acquireKey
  dsimp only
  generalize hm : (s.entries key).withModel
    (((s.attempts id).endpoint.map Endpoint.model).getD "") = e
  have he : Evolves (s.entries key) (e.computeState now) := by
    refine Entry.Evolves.trans (.inl ?_) (evolves_computeState e now)
    rw [← hm, slot_withModel]
  refine (moves_setEntry he).trans ?_
  rcases e.acquirePermit_cases key now enableActive with
    ⟨allowed, permit, ha, ht⟩ | ⟨hs, hf, ver, ha⟩
  · -- A permit without token, or a refusal: the attempt gains nothing live.
    rw [ha]
    refine moves_setAttempt hun ?_ ?_
    · intro p hp _
      cases allowed with
      | true =>
        have hp' : p ∈ (s.attempts id).permits ++ [permit] := mem_append_left _ hp
        by_cases hk : keys = [] <;> simpa [unreturned, hk] using hp'
      | false => simpa [unreturned] using hp
    · intro p hp
      cases allowed with
      | true =>
        have hp' : p ∈ (s.attempts id).permits ++ [permit] := by
          by_cases hk : keys = [] <;> simpa [unreturned, hk] using hp
        rcases mem_append.mp hp' with hp' | hp'
        · exact .inl hp'
        · exact .inr (by rw [mem_singleton.mp hp']; exact ht)
      | false => exact .inl (by simpa [unreturned] using hp)
  · rw [ha]
    have hi := Move.issue (s.setEntry key (e.computeState now)).registry id key
      (by simp [registry_setEntry, slot, hs])
      (by simpa [registry_setEntry, slot] using hf)
    refine .single ?_
    convert hi using 1
    rw [registry_setAttempt, registry_setEntry, registry_setEntry]
    have hh : s.registry.held id = (s.attempts id).permits.map ticket := by
      rw [← hun]
      rfl
    by_cases hk : keys = [] <;>
      simp [unreturned, hk, hh, ticket, slot]

/-- An iteration that evolves an entry and puts a permit back for it: one with
the ticket it had, or one without token once the entry has advanced. -/
lemma moves_replacePermit {permit permit' : Permit}
    (hun : (s.attempts id).unreturned = (s.attempts id).permits)
    (hf : (s.attempts id).permits.find? (fun p => p.key = key) = some permit)
    (he : Evolves (s.entries key) e)
    (hpe : permit'.ticket = permit.ticket ∨
      permit'.token = 0 ∧ (s.entries key).slot.Advanced e.slot)
    (ha : a.unreturned = replacePermit key permit' (s.attempts id).permits) :
    Moves s.registry ((s.setEntry key e).setAttempt id a).registry := by
  refine (moves_setEntry he).trans ?_
  rcases hpe with hc | ⟨hzero, hd⟩
  · refine moves_setAttempt_of_eq ?_
    change _ = (s.attempts id).unreturned.map ticket
    rw [ha, hun, map_ticket_replacePermit hf hc]
  · refine moves_setAttempt hun ?_ ?_
    · intro p hp hl
      rw [ha]
      -- No ticket of the advanced entry is live.
      refine mem_replacePermit_of_ne hp fun hk => ?_
      obtain ⟨hn, -, ht⟩ := hl
      have hs : p.ticket.key = key := hk
      rw [registry_setEntry, hs, Registry.slot_setSlot_self, hd.2.2.1] at ht
      exact hn ht
    · intro p hp
      rw [ha] at hp
      exact (mem_of_mem_replacePermit hp).imp_right fun heq => by rw [heq, hzero]

lemma Entry.evolves_recordReport (e : Entry) (p : CircuitBreakPolicy) (ep : Endpoint)
    (rep : Report) : Evolves e (e.recordReport p ep rep) := by
  have ha : Evolves e (e.annotate p ep rep) := .inl rfl
  exact ha.trans (evolves_recordLocked _ _ _ _)

lemma Manager.UpToDate.epoch_eq (h : s.UpToDate id key p) :
    p.epoch = (s.entries key).attemptEpoch :=
  (not_not.mp (not_or.mp h.2).1).symm

lemma Manager.UpToDate.mem (h : s.UpToDate id key p) : p ∈ (s.attempts id).permits :=
  mem_of_find?_eq_some h.1

lemma Manager.UpToDate.key_eq (h : s.UpToDate id key p) : p.key = key := by
  simpa using find?_some h.1

variable {rep : Report} {task : Task} {tasks : List Task} {rechecking : Bool} {s' : Manager}

lemma moves_iterated (hun : (s.attempts id).unreturned = (s.attempts id).permits)
    (h : s.Iterated id rep task tasks rechecking s') : Moves s.registry s'.registry := by
  cases h with
  | skipped => exact moves_setAttempt_of_eq (by rw [hun]; rfl)
  | versionReset hp ht hr =>
    have hs := checkAndResetOnVersionChange_spec (s.entries task.key) task.policy.version
    rw [if_pos hr] at hs
    exact moves_replacePermit hun hp.1 (.inr hs) (.inr ⟨ht, hs⟩) rfl
  | recorded version version' hp =>
    have hv := Entry.Evolves.trans (.inl rfl) (evolves_recordReport
      { s.entries task.key with policyVersion := version' } task.policy
      ((s.attempts id).endpoint.getD { id := "" }) rep)
    refine moves_replacePermit hun hp.1 hv ?_ rfl
    split
    · rename_i hn
      refine .inr ⟨rfl, hv.resolve_left fun hm => hn ?_⟩
      have he := congrArg Slot.epoch hm
      exact hp.epoch_eq.trans he.symm
    · exact .inl rfl

/-- Returning a permit frees the slot exactly if its ticket is live. -/
lemma moves_returnPermit {pending : List Permit}
    (hp : (s.attempts id).phase = .releasing (p :: pending)) :
    Moves s.registry ((s.setEntry p.key ((s.entries p.key).releasePermit p)).setPhase id
      (.releasing pending)).registry := by
  have hun : (s.attempts id).unreturned = p :: pending := by
    simp [unreturned, hp]
  unfold releasePermit
  split
  · rename_i h
    have hh : s.registry.held id = p.ticket :: pending.map ticket := by
      change (s.attempts id).unreturned.map ticket = _
      rw [hun, map_cons]
    have hl : s.registry.Live p.ticket := ⟨h.1, h.2.1.symm, h.2.2.symm⟩
    refine .single ?_
    convert Move.giveBack s.registry id p.ticket _ hh hl using 1
    unfold setPhase
    rw [registry_setAttempt, registry_setEntry]
    rfl
  · rename_i h
    refine (moves_setEntry (.inl rfl)).trans (moves_setAttempt hun ?_ ?_)
    · intro q hq hl
      rcases mem_cons.mp hq with rfl | hq
      · obtain ⟨hn, he, ht⟩ := hl
        have hk : q.ticket.key = q.key := rfl
        rw [registry_setEntry, hk, Registry.slot_setSlot_self] at he ht
        exact absurd ⟨hn, he.symm, ht.symm⟩ h
      · exact hq
    · exact fun q hq => .inl (mem_cons_of_mem p hq)

lemma Manager.setEntry_setEntry (s : Manager) (key : String) (e e' : Entry) :
    (s.setEntry key e).setEntry key e' = s.setEntry key e' := by
  simp [setEntry]

lemma moves_releaseAnonymous (hs : e.slot = (s.entries key).slot) :
    Moves s.registry (s.setEntry key e.releaseAnonymous).registry := by
  unfold releaseAnonymous
  split
  · rename_i h
    have ha : 0 < (s.registry.slot key).active := by
      change 0 < (s.entries key).slot.active
      rw [← hs]
      exact h.2.1
    have ht : (s.registry.slot key).token = 0 := by
      change (s.entries key).slot.token = 0
      rw [← hs]
      exact h.2.2
    refine .single ?_
    convert Move.give s.registry key ha ht using 1
    rw [registry_setEntry]
    change _ = s.registry.setSlot key
      { (s.entries key).slot with active := (s.entries key).slot.active - 1 }
    rw [← hs]
    rfl
  · exact moves_setEntry (.inl hs)

lemma moves_releaseAnonymous_record (ok : Bool) (now : Nanos) (cfg : WindowConfig)
    (hs : e.slot = (s.entries key).slot) :
    Moves s.registry
      (s.setEntry key (e.releaseAnonymous.recordLocked ok now cfg)).registry := by
  refine (moves_releaseAnonymous hs).trans ?_
  have he : Evolves ((s.setEntry key e.releaseAnonymous).entries key)
      (e.releaseAnonymous.recordLocked ok now cfg) := by
    simp only [setEntry, update_self]
    exact evolves_recordLocked _ ok now cfg
  have hm := moves_setEntry he
  rwa [setEntry_setEntry] at hm

/-- Every atomic step but a legacy acquisition is a sequence of moves. -/
lemma step_moves (s : Manager) (l : Label) (hl : l.isLegacyAcquire = false) :
    Moves s.registry (step s l).registry := by
  cases l with
  | start id ep =>
    dsimp only [step]
    split
    · rename_i hp
      refine moves_setAttempt_of_eq ?_
      cases ep <;> simp [unreturned, hp]
    · exact .refl
  | acquire id now enableActive =>
    dsimp only [step]
    split
    · rename_i hp
      exact moves_acquireKey now enableActive hp
    · exact .refl
  | release id | finish id rep =>
    dsimp only [step]
    split
    · rename_i hp
      exact moves_setAttempt_of_eq (by simp [unreturned, hp])
    · exact .refl
  | recordNext id =>
    dsimp only [step]
    split
    · rename_i hp
      exact moves_setAttempt_of_eq (by simp [unreturned, hp])
    · rename_i hp
      exact moves_iterated (by simp [unreturned, hp]) (recordTask_iterated _ _ _)
    · rename_i hp
      exact moves_iterated (by simp [unreturned, hp]) (recheckTask_iterated _ _ _)
    · exact .refl
  | returnNext id =>
    dsimp only [step]
    split
    · rename_i hp
      exact moves_setAttempt_of_eq (by simp [unreturned, hp])
    · rename_i hp
      exact moves_returnPermit hp
    · exact .refl
  | touch key modelCode => exact moves_setEntry (.inl (slot_withModel _ _))
  | observe key now => exact moves_setEntry (evolves_computeState _ now)
  | legacyRecord key p ep rep => exact moves_releaseAnonymous_record _ _ _ rfl
  | recordRaw key ok now windowSize minCalls allowedCalls timeout =>
    exact moves_releaseAnonymous_record _ _ _ rfl
  | reset key => exact moves_setEntry (.inr (advanced_reset _))
  | versionChange key ver =>
    exact moves_setEntry (evolves_checkAndResetOnVersionChange _ ver)
  | acquireHalfOpenPermit key enableActive => cases hl
  | releaseHalfOpenPermit key => exact moves_releaseAnonymous rfl

/-- A legacy acquisition takes a permit anonymously, or does nothing. -/
lemma step_acquireHalfOpenPermit (s : Manager) (key : String) (enableActive : Bool) :
    (step s (.acquireHalfOpenPermit key enableActive)).registry = s.registry ∨
      Take s.registry (step s (.acquireHalfOpenPermit key enableActive)).registry := by
  dsimp only [step]
  rw [registry_setEntry]
  unfold tryAcquireHalfOpenPermit
  split
  · exact .inl (s.setSlot_self key)
  · rename_i hs
    split
    · exact .inl (s.setSlot_self key)
    · split
      · rename_i hf
        right
        exact .take s.registry key (by simpa [registry, slot] using hs) hf
      · exact .inl (s.setSlot_self key)

lemma sound_newManager : Sound newManager.registry where
  active_le _ := .inl rfl
  out _ h := absurd rfl h
  token_le _ _ ht := by cases ht
  unique _ _ _ ht := by cases ht

lemma step_sound (hs : Sound s.registry) (l : Label) : Sound (step s l).registry := by
  by_cases hl : l.isLegacyAcquire = false
  · exact hs.moves (step_moves s l hl)
  · cases l with
    | acquireHalfOpenPermit key enableActive =>
      rcases step_acquireHalfOpenPermit s key enableActive with heq | ht
      · rw [heq]
        exact hs
      · exact hs.take ht
    | _ => exact absurd rfl hl

lemma run_sound (ls : List Label) : Sound (run step newManager ls).registry :=
  run_invariant step (fun s => Sound s.registry) (fun _ l hs => step_sound hs l) sound_newManager
    ls

lemma run_ticketed (ls : List Label) (hb : ∀ l ∈ ls, l.isLegacyAcquire = false) :
    Ticketed (run step newManager ls).registry :=
  (run_invariant_along step (fun s => Sound s.registry ∧ Ticketed s.registry)
    (fun s l hs hl => ⟨hs.1.moves (step_moves s l hl), hs.2.moves hs.1 (step_moves s l hl)⟩)
    ⟨sound_newManager, fun _ _ => rfl⟩ ls
    (Along.of_forall_mem step (fun l hl _ => hb l hl) newManager)).2

/-! ## Stale and finished attempts -/

/-- The attempt has not yet returned a permit of the key, and that permit is the
one the breaker has out. -/
def Manager.HoldsLive (s : Manager) (id : ℕ) (key : String) : Prop :=
  ∃ p ∈ (s.attempts id).unreturned, p.key = key ∧ p.token ≠ 0 ∧
    p.epoch = (s.entries key).attemptEpoch ∧ p.token = (s.entries key).permitToken

lemma Manager.holdsLive_iff (s : Manager) (id : ℕ) (key : String) :
    s.HoldsLive id key ↔ s.registry.HoldsLive id key := by
  constructor
  · rintro ⟨p, hp, rfl, hn, he, hk⟩
    exact ⟨p.ticket, mem_map_of_mem hp, rfl, hn, he, hk⟩
  · rintro ⟨t, ht, rfl, hn, he, hk⟩
    obtain ⟨p, hp, rfl⟩ := mem_map.mp ht
    exact ⟨p, hp, rfl, hn, he, hk⟩

/-- The attempt that takes the step, if one does. -/
def Label.actor : Label → Option ℕ
  | .start id _ | .acquire id _ _ | .release id | .finish id _ | .recordNext id
  | .returnNext id => some id
  | _ => none

/-- The attempt has returned from `Release` or from recording its outcome. -/
def Attempt.Finished (a : Attempt) : Prop := a.phase = .done

/-- The attempt was handed to its caller or refused. -/
def Attempt.Acquired (a : Attempt) : Prop :=
  match a.phase with
  | .idle | .acquiring _ => False
  | _ => True

/-- The breaker has moved on since the attempt acquired it. -/
def Manager.Stale (s : Manager) (id : ℕ) (key : String) : Prop :=
  (s.attempts id).Acquired ∧
    ∀ p ∈ (s.attempts id).unreturned, p.key = key → p.Outdated (s.entries key)

namespace Manager
variable {key : String}

lemma entries_setEntry_of_ne {key' : String} (e : Entry) (h : key ≠ key') :
    (s.setEntry key' e).entries key = s.entries key := by
  simp [setEntry, h]

lemma entries_iterated_of_stale (hun : (s.attempts id).unreturned = (s.attempts id).permits)
    (hs : s.Stale id key) (h : s.Iterated id rep task tasks rechecking s') :
    s'.entries key = s.entries key := by
  have hne : ∀ {p}, s.UpToDate id task.key p → key ≠ task.key := by
    rintro p hp rfl
    exact hp.2 (hs.2 p (hun ▸ hp.mem) hp.key_eq)
  cases h with
  | skipped => rfl
  | versionReset hp | recorded _ _ hp => exact entries_setEntry_of_ne _ (hne hp)

end Manager

lemma Manager.attempts_setAttempt_of_ne (a : Attempt) (h : id' ≠ id) :
    (s.setAttempt id a).attempts id' = s.attempts id' := by
  simp [setAttempt, h]

lemma attempts_step_of_ne {l : Label} (ha : l.actor = some id) (hn : id' ≠ id) :
    (step s l).attempts id' = s.attempts id' := by
  have he : ∀ (s' : Manager) (a : Attempt), s'.attempts = s.attempts →
      (s'.setAttempt id a).attempts id' = s.attempts id' := fun s' a hs' => by
    rw [attempts_setAttempt_of_ne a hn, hs']
  have hi : ∀ {rep task tasks rechecking s'}, s.Iterated id rep task tasks rechecking s' →
      s'.attempts id' = s.attempts id' := by
    rintro _ _ _ _ _ (_ | _ | _) <;> exact he _ _ rfl
  cases l with
  | start _ ep | acquire _ now enableActive | release _ | finish _ rep | returnNext _ =>
    cases ha
    dsimp only [step]
    split <;> first | rfl | exact he _ _ rfl
  | recordNext _ =>
    cases ha
    dsimp only [step]
    split
    · exact he _ _ rfl
    · exact hi (recordTask_iterated _ _ _)
    · exact hi (recheckTask_iterated _ _ _)
    · rfl
  | _ => cases ha

/-- Returning a permit changes no breaker for which another attempt holds the
live one: its holder is unique. -/
lemma entries_returnPermit (hs : Sound s.registry) {pending : List Permit}
    (hp : (s.attempts id).phase = .releasing (p :: pending)) (hn : id' ≠ id)
    (hl : s.HoldsLive id' key) :
    (s.setEntry p.key ((s.entries p.key).releasePermit p)).entries key = s.entries key := by
  by_cases hk : key = p.key
  · subst hk
    simp only [setEntry, update_self, releasePermit]
    refine if_neg fun ho => hn ?_
    have hm : s.HoldsLive id p.key :=
      ⟨p, by simp [unreturned, hp], rfl, ho.1, ho.2.1.symm, ho.2.2.symm⟩
    exact hs.holdsLive_unique ((s.holdsLive_iff id' p.key).mp hl) ((s.holdsLive_iff id p.key).mp hm)
  · exact entries_setEntry_of_ne _ hk

/-- A finished or stale attempt never frees a permit that another one holds. -/
lemma holdsLive_step_of_stale (hs : Sound s.registry) {l : Label} (ha : l.actor = some id)
    (hn : id' ≠ id) (ht : (s.attempts id).Finished ∨ s.Stale id key)
    (hl : s.HoldsLive id' key) :
    (step s l).entries key = s.entries key ∧ (step s l).HoldsLive id' key := by
  have he : (step s l).entries key = s.entries key := by
    cases l with
    | start _ ep | release _ | finish _ rep =>
      cases ha
      dsimp only [step]
      split <;> rfl
    | acquire _ now enableActive =>
      cases ha
      dsimp only [step]
      split
      · -- An attempt that still acquires is neither finished nor stale.
        rename_i hp
        rcases ht with hd | ⟨hc, -⟩
        · simp [Attempt.Finished, hp] at hd
        · simp [Attempt.Acquired, hp] at hc
      · rfl
    | recordNext _ =>
      cases ha
      dsimp only [step]
      split
      · rfl
      · rename_i hp
        refine entries_iterated_of_stale (by simp [unreturned, hp]) ?_ (recordTask_iterated _ _ _)
        exact ht.resolve_left fun hd => by simp [Attempt.Finished, hp] at hd
      · rename_i hp
        refine entries_iterated_of_stale (by simp [unreturned, hp]) ?_ (recheckTask_iterated _ _ _)
        exact ht.resolve_left fun hd => by simp [Attempt.Finished, hp] at hd
      · rfl
    | returnNext _ =>
      cases ha
      dsimp only [step]
      split
      · rfl
      · rename_i hp
        exact entries_returnPermit hs hp hn hl
      · rfl
    | _ => cases ha
  refine ⟨he, ?_⟩
  unfold Manager.HoldsLive at hl ⊢
  rw [he, attempts_step_of_ne ha hn]
  exact hl

/-- The permit invariant of the circuit breaker, after every interleaving of
atomic steps: every active count is zero or one; a token out means a half-open
breaker with one active call and exactly one attempt that holds this epoch and
token; a finished or stale attempt changes nothing about a permit that another
one holds; and without legacy acquisitions the active count is the number of
attempts that hold a live token. -/
theorem breaker_permit_invariant (labels : List Label) :
    (∀ key, ((run step newManager labels).entries key).activeCalls = 0 ∨
      ((run step newManager labels).entries key).activeCalls = 1) ∧
    (∀ key, ((run step newManager labels).entries key).permitToken ≠ 0 →
      ((run step newManager labels).entries key).state = .circuitHalfOpen ∧
      ((run step newManager labels).entries key).activeCalls = 1 ∧
      ∃! id, ∃ p ∈ ((run step newManager labels).attempts id).unreturned, p.key = key ∧
        p.epoch = ((run step newManager labels).entries key).attemptEpoch ∧
        p.token = ((run step newManager labels).entries key).permitToken) ∧
    (∀ l id id' key, l.actor = some id → id' ≠ id →
      ((run step newManager labels).attempts id).Finished ∨
        (run step newManager labels).Stale id key →
      (run step newManager labels).HoldsLive id' key →
      (step (run step newManager labels) l).entries key = (run step newManager labels).entries key ∧
        (step (run step newManager labels) l).HoldsLive id' key) ∧
    ((∀ l ∈ labels, l.isLegacyAcquire = false) → ∀ key,
      ((run step newManager labels).entries key).activeCalls =
        ({id | (run step newManager labels).HoldsLive id key} : Set ℕ).ncard) := by
  have hn := run_sound labels
  generalize hs : run step newManager labels = s at hn
  refine ⟨hn.active_le, ?_, ?_, ?_⟩
  · intro key hk
    obtain ⟨hr, ha, -⟩ := hn.out key hk
    refine ⟨by simpa [registry, slot] using hr, ha, ?_⟩
    obtain ⟨id, hd, ho⟩ := hn.existsUnique_holdsLive hk
    obtain ⟨p, hp, hpk, -, he, ht⟩ := (s.holdsLive_iff id key).mpr hd
    refine ⟨id, ⟨p, hp, hpk, he, ht⟩, ?_⟩
    rintro id' ⟨p', hp', hpk', he', ht'⟩
    exact ho id' ((s.holdsLive_iff id' key).mp ⟨p', hp', hpk', by rw [ht']; exact hk, he', ht'⟩)
  · intro l id id' key hc hne hst hv
    exact holdsLive_step_of_stale hn hc hne hst hv
  · intro hl key
    have hi := run_ticketed labels hl
    rw [hs] at hi
    simp only [holdsLive_iff]
    exact hi.active_eq_ncard hn key

/-- An endpoint breaker opens, its recovery time passes, and an attempt takes the
half-open permit. -/
def probingRun : List Label :=
  [.recordRaw "ep-1" false 0 10 1 1 1000,
    .start 0 (some { id := "ep-1", provider := "p", model := "m" }),
    .acquire 0 5000 false, .acquire 0 5000 false]

/-- In that run the attempt is the one holder of the permit. -/
theorem breaker_permit_invariant_probing :
    ((run step newManager probingRun).entries "ep-1").permitToken = 1 ∧
    (∃! id, ∃ p ∈ ((run step newManager probingRun).attempts id).unreturned, p.key = "ep-1" ∧
      p.epoch = ((run step newManager probingRun).entries "ep-1").attemptEpoch ∧
      p.token = ((run step newManager probingRun).entries "ep-1").permitToken) ∧
    ((run step newManager probingRun).entries "ep-1").activeCalls =
      ({id | (run step newManager probingRun).HoldsLive id "ep-1"} : Set ℕ).ncard := by
  have ho : ((run step newManager probingRun).entries "ep-1").permitToken = 1 := by
    decide +kernel
  exact ⟨ho, ((breaker_permit_invariant probingRun).2.1 "ep-1" (by rw [ho]; decide)).2.2,
    (breaker_permit_invariant probingRun).2.2.2 (by decide) "ep-1"⟩

end TokenliveGateway.Breaker
