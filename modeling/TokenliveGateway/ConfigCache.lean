import TokenliveGateway.LabelledRuns

/-!
# The cache of model configurations

`GetEndpoints` answers from the cache or fetches from Redis, where the endpoints and the version
of a model are read by two commands of one pipeline; `checkVersion` evicts the models whose
version has changed. An update between the two reads leaves old endpoints in the cache under
the new version, which no later poll evicts.
-/
namespace TokenliveGateway.ConfigCache
open LabelledRuns Function

variable {ε : Type*}

/-- A model in Redis: its endpoints, if the key is there and can be decoded, and its version,
0 where there is none. -/
structure ModelRecord (ε : Type*) where
  endpoints : Option ε
  version : ℤ

/-- How far `fetchFromRedis` has come. -/
inductive Fetch (ε : Type*) where
  | started (model : String)
  | gotEndpoints (model : String) (endpoints : Option ε)
  | gotVersion (model : String) (endpoints : Option ε) (version : ℤ)

def Fetch.model : Fetch ε → String
  | started m | gotEndpoints m _ | gotVersion m _ _ => m

/-- How far `checkVersion` has come: which models it asks for, and their versions in Redis. -/
inductive Poll where
  | idle
  | listed (active : String → Bool)
  | read (active : String → Bool) (versions : String → ℤ)

structure Source (ε : Type*) where
  remote : String → ModelRecord ε
  cache : String → Option ε := fun _ => none
  lastVersions : String → Option ℤ := fun _ => none
  /-- The calls of `GetEndpoints` that are past the cache. -/
  fetches : ℕ → Option (Fetch ε) := fun _ => none
  poll : Poll := .idle

inductive Label (ε : Type*) where
  | call (i : ℕ) (model : String)
  | get (i : ℕ)
  | hget (i : ℕ)
  | store (i : ℕ)
  | fail (i : ℕ)
  | update (model : String) (record : ModelRecord ε)
  | poll
  | pollFail

/-- The end of `GetEndpoints`: nothing is cached where the endpoints could not be fetched. -/
def Source.put (s : Source ε) (model : String) (version : ℤ) : Option ε → Source ε
  | some endpoints =>
    { s with
      cache := update s.cache model (some endpoints)
      lastVersions := update s.lastVersions model (some version) }
  | none => s

/-- The eviction of `checkVersion`. -/
def changed (s : Source ε) (active : String → Bool) (versions : String → ℤ) (model : String) :
    Bool :=
  active model && versions model ≠ (s.lastVersions model).getD 0

def Source.setFetch (s : Source ε) (i : ℕ) (f : Option (Fetch ε)) : Source ε :=
  { s with fetches := update s.fetches i f }

def pollStep (s : Source ε) : Source ε :=
  match s.poll with
  | .idle => { s with poll := .listed fun m => (s.lastVersions m).isSome }
  | .listed active => { s with poll := .read active fun m => (s.remote m).version }
  | .read active versions =>
    { s with
      cache := fun m => if changed s active versions m then none else s.cache m
      lastVersions := fun m => if changed s active versions m then none else s.lastVersions m
      poll := .idle }

def step (s : Source ε) : Label ε → Source ε
  | .call i model =>
    if (s.cache model).isNone && (s.fetches i).isNone then s.setFetch i (some (.started model))
    else s
  | .get i =>
    match s.fetches i with
    | some (.started m) => s.setFetch i (some (.gotEndpoints m (s.remote m).endpoints))
    | _ => s
  | .hget i =>
    match s.fetches i with
    | some (.gotEndpoints m e) => s.setFetch i (some (.gotVersion m e (s.remote m).version))
    | _ => s
  | .store i =>
    match s.fetches i with
    | some (.gotVersion m e v) => (s.setFetch i none).put m v e
    | _ => s
  | .fail i => s.setFetch i none
  | .update model record => { s with remote := update s.remote model record }
  | .poll => pollStep s
  | .pollFail => { s with poll := .idle }

/-- The endpoints a step hands to the caller of `GetEndpoints`. -/
def returned (s : Source ε) (model : String) : Label ε → Option (Option ε)
  | .call _ m => if m = model then (s.cache m).map some else none
  | .store i =>
    match s.fetches i with
    | some (.gotVersion m e _) => if m = model then some e else none
    | _ => none
  | _ => none

/-- What the fetch `i` has once it has started or read. -/
def Reads (s : Source ε) (i : ℕ) : Fetch ε → Prop
  | .started _ => True
  | .gotEndpoints m e => e = (s.remote m).endpoints
  | .gotVersion m e v => s.fetches i = some (.gotEndpoints m e) ∧ v = (s.remote m).version

/-- An update raises the version, and does not fall between the two reads of a fetch. -/
def Undisturbed (model : String) (s : Source ε) : Label ε → Prop
  | .update m record => m = model → (s.remote model).version < record.version ∧
      ∀ i e, s.fetches i ≠ some (.gotEndpoints model e)
  | _ => True

def Updates (model : String) (l : Label ε) : Prop := ∃ record, l = .update model record

/-- Before the poll, while it goes on with no more updates, and after it. -/
inductive Phase where
  | before
  | polling
  | done

/-- The steps of a phase. -/
def Allowed (ph : Phase) (model : String) (s : Source ε) (l : Label ε) : Prop :=
  Undisturbed model s l ∧ (ph ≠ .before → ¬Updates model l) ∧ (ph = .polling → l ≠ .pollFail)

lemma Allowed.of_not_updates {ph : Phase} {model : String} {l : Label ε} (h : ¬Updates model l)
    (hf : ph = .polling → l ≠ .pollFail) (s : Source ε) : Allowed ph model s l := by
  refine ⟨?_, fun _ => h, hf⟩
  cases l with
  | update m rec =>
    rintro rfl
    exact absurd ⟨rec, rfl⟩ h
  | _ => trivial

/-- The endpoints and the version were read from one record, which is past or still there. -/
def Paired (record : ModelRecord ε) (endpoints : Option ε) (version : ℤ) : Prop :=
  version ≤ record.version ∧ (version = record.version → endpoints = record.endpoints)

/-- What a fetch has read of the model belongs together, and is the newest once updates have
ceased. -/
def FetchPaired (ph : Phase) (model : String) (record : ModelRecord ε) : Fetch ε → Prop
  | .started _ => True
  | .gotEndpoints m e => m = model → e = record.endpoints
  | .gotVersion m e v => m = model →
      Paired record e v ∧ (ph ≠ .before → e = record.endpoints)

/-- The poll is going to compare the model with its version in Redis. -/
def Pending (model : String) (s : Source ε) : Prop :=
  match s.poll with
  | .idle => False
  | .listed active => active model = true
  | .read active versions => active model = true ∧ versions model = (s.remote model).version

/-- Old endpoints are cached with their version, and after the updates only while the poll is
pending. -/
structure CatchingUp (ph : Phase) (model : String) (s : Source ε) : Prop where
  paired : ∀ e, s.cache model = some e →
    ∃ v, s.lastVersions model = some v ∧ Paired (s.remote model) (some e) v
  newest : ph ≠ .before → ∀ e, s.cache model = some e →
    some e = (s.remote model).endpoints ∨ ph = .polling ∧ Pending model s
  fetched : ∀ i f, s.fetches i = some f → FetchPaired ph model (s.remote model) f

variable {ph : Phase} {model m : String} {s : Source ε} {i : ℕ} {f : Option (Fetch ε)}

lemma CatchingUp.setFetch (h : CatchingUp ph model s)
    (hf : ∀ f', f = some f' → Reads s i f') : CatchingUp ph model (s.setFetch i f) := by
  refine ⟨h.paired, h.newest, fun j f' hj => ?_⟩
  by_cases hi : j = i
  · subst hi
    have hr := hf f' (by simpa [Source.setFetch] using hj)
    cases f' with
    | started => trivial
    | gotEndpoints m e =>
      rintro rfl
      exact hr
    | gotVersion m e v =>
      rintro rfl
      have he := h.fetched _ _ hr.1 rfl
      exact ⟨⟨hr.2.le, fun _ => he⟩, fun _ => he⟩
  · exact h.fetched j f' (by simpa [Source.setFetch, hi] using hj)

lemma CatchingUp.put (h : CatchingUp ph model s) {e : Option ε} {v : ℤ}
    (hp : FetchPaired ph model (s.remote model) (.gotVersion m e v)) :
    CatchingUp ph model (s.put m v e) := by
  cases e with
  | none => exact h
  | some e =>
    by_cases hm : m = model
    · subst hm
      obtain ⟨hp, he⟩ := hp rfl
      refine ⟨?_, fun hb => ?_, h.fetched⟩ <;> simp only [Source.put, update_self]
      · rintro e' ⟨⟩
        exact ⟨v, rfl, hp⟩
      · rintro e' ⟨⟩
        exact .inl (he hb)
    · have hn := Ne.symm hm
      exact ⟨by simpa [Source.put, hn] using h.paired,
        by simpa [Source.put, hn, Pending] using h.newest, h.fetched⟩

lemma CatchingUp.update (h : CatchingUp ph model s) {rec : ModelRecord ε}
    (hu : Allowed ph model s (.update m rec)) :
    CatchingUp ph model { s with remote := update s.remote m rec } := by
  by_cases hm : m = model
  · subst hm
    obtain ⟨hl, hno⟩ := hu.1 rfl
    have hb : ph = .before := by_contra fun hb => hu.2.1 hb ⟨rec, rfl⟩
    have later {e v} (hp : Paired (s.remote m) e v) : Paired rec e v :=
      ⟨hp.1.trans hl.le, fun hv => absurd (hv ▸ hp.1) hl.not_ge⟩
    refine ⟨fun e he => ?_, fun hn => absurd hb hn, fun i f hf => ?_⟩
    · obtain ⟨v, hv, hp⟩ := h.paired e he
      exact ⟨v, hv, by simpa using later hp⟩
    · have ho := h.fetched i f hf
      cases f with
      | started => trivial
      | gotEndpoints m' e =>
        rintro rfl
        exact absurd hf (hno i e)
      | gotVersion m' e v =>
        intro hq
        exact ⟨by simpa using later (ho hq).1, fun hn => absurd hb hn⟩
  · have hne := Ne.symm hm
    exact ⟨by simpa [hne] using h.paired, by simpa [hne, Pending] using h.newest,
      by simpa [hne] using h.fetched⟩

lemma CatchingUp.pollStep (h : CatchingUp ph model s) : CatchingUp ph model (pollStep s) := by
  cases hp : s.poll with
  | idle =>
    simp only [ConfigCache.pollStep, hp]
    refine ⟨h.paired, fun hb e he => (h.newest hb e he).imp_right fun hpe => ?_, h.fetched⟩
    simp [Pending, hp] at hpe
  | listed active =>
    simp only [ConfigCache.pollStep, hp]
    refine ⟨h.paired, fun hb e he => (h.newest hb e he).imp_right fun hpe => ?_, h.fetched⟩
    simpa [Pending, hp] using hpe
  | read active versions =>
    simp only [ConfigCache.pollStep, hp]
    cases hc : changed s active versions model with
    | true => exact ⟨by simp [hc], by simp [hc], h.fetched⟩
    | false =>
      refine ⟨by simpa [hc] using h.paired, fun hb e he => .inl ?_, h.fetched⟩
      -- an entry that is left has the version of Redis, or was the newest before
      have he : s.cache model = some e := by simpa [hc] using he
      refine (h.newest hb e he).elim id fun hpe => ?_
      obtain ⟨v, hv, hpv⟩ := h.paired e he
      simp only [Pending, hp] at hpe
      have hq : (s.remote model).version = v := by simpa [changed, hpe, hv] using hc
      exact hpv.2 hq.symm

lemma CatchingUp.step {l : Label ε} (h : CatchingUp ph model s) (hl : Allowed ph model s l) :
    CatchingUp ph model (step s l) := by
  cases l with
  | call i m =>
    simp only [ConfigCache.step]
    split_ifs
    · exact h.setFetch (by simp [Reads])
    · exact h
  | get i =>
    simp only [ConfigCache.step]
    split
    · exact h.setFetch (by simp [Reads])
    · exact h
  | hget i =>
    simp only [ConfigCache.step]
    split
    · rename_i hi
      exact h.setFetch (by simp [Reads, hi])
    · exact h
  | store i =>
    simp only [ConfigCache.step]
    split
    · rename_i hi
      exact (h.setFetch (by simp)).put (h.fetched _ _ hi)
    · exact h
  | fail i => exact h.setFetch (by simp)
  | update m rec => exact h.update hl
  | poll => exact h.pollStep
  | pollFail =>
    refine ⟨h.paired, fun hb e he => (h.newest hb e he).imp_right fun hp => ?_, h.fetched⟩
    exact absurd rfl (hl.2.2 hp.1)

lemma catchingUp_run (ls : List (Label ε)) (h : CatchingUp ph model s)
    (hl : Along step (Allowed ph model) s ls) : CatchingUp ph model (run step s ls) :=
  run_invariant_along step _ (fun _ _ h hl => h.step hl) h ls hl

lemma CatchingUp.start (h : CatchingUp .before model s) (hp : s.poll = .idle)
    (hf : ∀ i f, s.fetches i = some f → f.model ≠ model) :
    CatchingUp .polling model (ConfigCache.step s .poll) := by
  simp only [ConfigCache.step, ConfigCache.pollStep, hp]
  refine ⟨h.paired, fun _ e he => .inr ⟨rfl, ?_⟩, fun i f hi => ?_⟩
  · obtain ⟨v, hv, _⟩ := h.paired e he
    simp [Pending, hv]
  · have hn := hf i f hi
    cases f with
    | started => trivial
    | _ => exact fun heq => absurd heq hn

lemma CatchingUp.finish (h : CatchingUp .polling model s) (hp : s.poll = .idle) :
    CatchingUp .done model s := by
  refine ⟨h.paired, fun _ e he => .inl ?_, fun i f hi => ?_⟩
  · simpa [Pending, hp] using h.newest (by simp) e he
  · have ho := h.fetched i f hi
    cases f with
    | started => trivial
    | _ => simpa [FetchPaired] using ho

lemma CatchingUp.returned {l : Label ε} {res : Option ε} (h : CatchingUp .done model s)
    (hr : returned s model l = some res) : res = (s.remote model).endpoints := by
  cases l with
  | call i m =>
    simp only [ConfigCache.returned, Option.ite_none_right_eq_some, Option.map_eq_some_iff] at hr
    obtain ⟨rfl, e, he, rfl⟩ := hr
    simpa using h.newest (by simp) e he
  | store i =>
    simp only [ConfigCache.returned] at hr
    split at hr
    · rename_i m e v hi
      obtain ⟨rfl, rfl⟩ : m = model ∧ e = res := by simpa using hr
      exact (h.fetched i _ hi rfl).2 (by simp)
    · cases hr
  | _ => cases hr

/-- The cache catches up as long as no update of the model falls between the two reads of a
fetch: once a poll that starts with no fetch in progress is complete, and the model is not
updated any more, every call is answered with the newest endpoints. -/
theorem config_cache_catches_up (remote : String → ModelRecord ε) (model : String)
    (front mid rest : List (Label ε)) (hfront : Along step (Undisturbed model) { remote } front)
    (hpoll : (run step { remote } front).poll = .idle)
    (hfetch : ∀ i f, (run step { remote } front).fetches i = some f → f.model ≠ model)
    (hquiet : ∀ l ∈ mid ++ rest, ¬Updates model l) (hok : .pollFail ∉ mid)
    (hdone : (run step { remote } (front ++ .poll :: mid)).poll = .idle) (l : Label ε)
    (res : Option ε)
    (hres : returned (run step { remote } (front ++ .poll :: mid ++ rest)) model l = some res) :
    res = ((run step { remote } (front ++ .poll :: mid ++ rest)).remote model).endpoints := by
  have hi : CatchingUp .before model ({ remote } : Source ε) := ⟨by simp, by simp, by simp⟩
  have hb := catchingUp_run front hi
    ((along_congr _ (fun _ => True) (by simp) (by simp [Allowed]) trivial front).mp hfront)
  have hm := catchingUp_run mid (hb.start hpoll hfetch) (.of_forall_mem _ (fun l hl =>
    .of_not_updates (hquiet l (by simp [hl])) fun _ heq => hok (heq ▸ hl)) _)
  rw [run_append, run_cons] at hdone
  have hr := catchingUp_run rest (hm.finish hdone) (.of_forall_mem _ (fun l hl =>
    .of_not_updates (hquiet l (by simp [hl])) (by simp)) _)
  rw [run_append, run_append, run_cons] at hres ⊢
  exact hr.returned hres

/-- An entry of the first version is evicted once the second is there. -/
theorem new_endpoints_fetched :
    ((run step { remote := fun _ => ⟨some "old", 1⟩ } ([.call 0 "gpt", .get 0, .hget 0, .store 0,
      .update "gpt" ⟨some "new", 2⟩] ++ .poll :: [.poll, .poll] ++ [.call 0 "gpt", .get 0,
        .hget 0])).remote "gpt").endpoints = some "new" :=
  (config_cache_catches_up (fun _ => ⟨some "old", 1⟩) "gpt"
    [.call 0 "gpt", .get 0, .hget 0, .store 0, .update "gpt" ⟨some "new", 2⟩] [.poll, .poll]
    [.call 0 "gpt", .get 0, .hget 0]
    (by simp [Along, Undisturbed, step, Source.setFetch, Source.put]) rfl
    (by simp [step, Source.setFetch, Source.put]) (by simp [Updates]) (by simp) rfl (.store 0)
    (some "new") rfl).symm

/-- The update falls between the reads of a fetch: the old endpoints are cached under the new
version, and are the answer after every poll. -/
theorem old_endpoints_stay :
    let s := run step { remote := fun _ => ⟨some "old", 1⟩ } [.call 0 "gpt", .get 0,
      .update "gpt" ⟨some "new", 2⟩, .hget 0, .store 0, .poll, .poll, .poll]
    s.poll = .idle ∧ (∀ i, s.fetches i = none) ∧
      returned s "gpt" (.call 0 "gpt") = some (some "old") ∧
      (s.remote "gpt").endpoints = some "new" := by
  refine ⟨rfl, fun i => ?_, rfl, rfl⟩
  simp [step, pollStep, Source.setFetch, Source.put]

end TokenliveGateway.ConfigCache
