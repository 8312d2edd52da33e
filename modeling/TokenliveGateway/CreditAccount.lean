import TokenliveGateway.ExpirableCache
import TokenliveGateway.LabelledRuns
import TokenliveGateway.RequestIdentity

/-!
# API keys and their credits

`ApiKeyService` answers from its cache or from a provider, checks a key's credits before
a request and deducts them after it. The two providers are the Redis hash with its atomic
decrement and the in-memory copy of the admin console's records. Both hold `int64`
balances: Redis refuses a decrement that would overflow, Go subtraction wraps.

Credits may become negative, and `-1` also means "no limit". A key keeps a proper account
as long as no deduction lands on that value.
-/
namespace TokenliveGateway.CreditAccount
open RequestIdentity LabelledRuns Function

/-- `HTTPApiKeyItem` and, field for field, `ApiKeyInfo`. -/
structure ApiKeyInfo where
  keyID : String := ""
  keyHash : String := ""
  userID : String := ""
  tenant : String := ""
  workspaceID : String := ""
  userTenant : String := ""
  status : ℤ := 1
  credits : ℤ
  expiresAt : ℤ := 0
  deriving Repr, DecidableEq

/-- How a call of the key service ends. Logging a failure slices the key to eight bytes,
which panics on a shorter one. -/
inductive Ending (α : Type) where
  | panics
  | returns (result : Except GoError α)
  deriving DecidableEq

namespace Ending
variable {α β : Type}

/-- The end of a caller that goes on with the result. -/
def andThen (f : α → Except GoError β) : Ending α → Ending β
  | panics => panics
  | returns result => returns (result.bind f)

def isOk : Ending α → Bool
  | returns (.ok _) => true
  | panics | returns (.error _) => false

end Ending

/-- What `GetApiKey` returns: an error, or a pointer. -/
abbrev Answer := Except GoError (Option ApiKeyInfo)

/-- Where keys are stored. The Redis provider reads one hash per key, the HTTP
provider keeps `memory` and asks the admin console for a key it does not have.
A key's hash stands for the key. -/
inductive Provider where
  | redis (records : String → Option ApiKeyInfo)
  | http (memory admin : String → Option ApiKeyInfo)

namespace Provider

/-- A Redis hash without any owner counts as missing (`parseRedisApiKeyItem`). -/
def hasOwner (item : ApiKeyInfo) : Bool :=
  item.userID ≠ "" || item.tenant ≠ "" || item.workspaceID ≠ ""

/-- The stored record of a key, wherever the next read would find it. -/
def record : Provider → String → Option ApiKeyInfo
  | redis records, key => (records key).filter hasOwner
  | http memory admin, key => memory key <|> admin key

/-- `GetApiKey`; `reachable` says whether the network call succeeds. -/
def getApiKey (p : Provider) (key : String) (reachable : Bool) :
    Except GoError ApiKeyInfo × Provider :=
  match p with
  | redis records =>
    if !reachable then (.error (.other "redis: connection refused"), p)
    else
      match (records key).filter hasOwner with
      | none => (.error (.other "api key not found in redis"), p)
      | some item => (.ok item, p)
  | http memory admin =>
    if key = "" then (.error (.other "api key cannot be empty"), p)
    else
      match memory key with
      | some item => (.ok item, p)
      | none =>
        if !reachable then (.error (.other "admin console unreachable"), p)
        else
          match admin key with
          | none => (.error (.other "api key not found on admin console"), p)
          | some item => (.ok item, http (Function.update memory key (some item)) admin)

/-- `DeductCredits` of the two providers. -/
def deductCredits (p : Provider) (key : String) (credits : ℤ) (reachable : Bool) :
    Except GoError ℤ × Provider :=
  match p with
  | redis records =>
    if !reachable then (.error (.other "redis: connection refused"), p)
    else
      match (records key).filter hasOwner with
      | none => (.error (.other "api key not found in redis"), p)
      | some item =>
        -- HINCRBY fails on overflow instead of wrapping.
        if item.credits - credits < -2 ^ 63 then
          (.error (.other "ERR increment or decrement would overflow"), p)
        else
          (.ok (item.credits - credits),
            redis (Function.update records key
              (some { item with credits := item.credits - credits })))
  | http memory admin =>
    match memory key with
    | none => (.error (.other "api key not found in memory"), p)
    | some item =>
      if item.credits = -1 then (.ok (-1), p)
      else
        (.ok (wrapInt64 (item.credits - credits)),
          http (Function.update memory key
            (some { item with credits := wrapInt64 (item.credits - credits) })) admin)

/-- The stored balance of a key, zero without record. -/
def balance (p : Provider) (key : String) : ℤ :=
  ((p.record key).map ApiKeyInfo.credits).getD 0

end Provider

/-- `ApiKeyService` with the clock it reads. -/
structure Service where
  provider : Provider
  cache : ExpirableCache String ApiKeyInfo
  now : Nanos

open Service

/-- `NewApiKeyService`: values live 30 s, error messages 10 s. -/
def newApiKeyService (provider : Provider) (now : Nanos) : Service where
  provider := provider
  cache := .new (30 * 10 ^ 9) (10 * 10 ^ 9)
  now := now

namespace Service

/-- `time.Now().Unix()`. -/
def unixNow (s : Service) : ℤ := s.now / 10 ^ 9

/-- Caches a refusal and returns it. -/
def refuse (s : Service) (key errMsg : String) : Except GoError ApiKeyInfo × Service :=
  (.error (.other errMsg), { s with cache := s.cache.addInvalid key errMsg s.now })

/-- The checks `ValidateKey` makes on a record it has just fetched. -/
def acceptRecord (s : Service) (key : String) (info : ApiKeyInfo) :
    Except GoError ApiKeyInfo × Service :=
  if info.status ≠ 1 then s.refuse key "API key has been disabled"
  else if info.expiresAt > 0 ∧ info.expiresAt < s.unixNow then s.refuse key "API key has expired"
  else (.ok info, { s with cache := s.cache.addValid key info s.now })

/-- The end of a call that does not panic, with the service it leaves. -/
def returning {α : Type} (r : Except GoError α × Service) : Ending α × Service :=
  (.returns r.1, r.2)

/-- `ValidateKey` with what `GetApiKey` returns, should it be called. Messages in the cache
are never empty, so a cached message is a refusal. The log line of a failed fetch comes
before the refusal is cached. -/
def validateWith (s : Service) (key : String) (fetched : Answer × Provider) :
    Ending ApiKeyInfo × Service :=
  match s.cache.get key s.now with
  | some (.error errMsg) => (.returns (.error (.other errMsg)), s)
  | some (.ok info) => (.returns (.ok info), s)
  | none =>
    let s := { s with provider := fetched.2 }
    match fetched.1 with
    | .error _ =>
      if key.utf8ByteSize < 8 then (.panics, s) else returning (s.refuse key "invalid API key")
    | .ok none => (.panics, s)
    | .ok (some item) => returning (s.acceptRecord key item)

/-- `CheckCredits` on a record. -/
def checkRecord (info : ApiKeyInfo) : Except GoError Unit :=
  if info.userID = "" then .ok ()
  else if info.credits = -1 then .ok ()
  else if info.credits ≤ 0 then .error (.other "credits exceeded")
  else .ok ()

def checkCreditsWith (s : Service) (key : String) (fetched : Answer × Provider) :
    Ending Unit × Service :=
  ((s.validateWith key fetched).1.andThen checkRecord, (s.validateWith key fetched).2)

/-- `GetApiKey` of the service's provider; it returns no nil record. -/
def fetch (s : Service) (key : String) (reachable : Bool) : Answer × Provider :=
  ((s.provider.getApiKey key reachable).1.map some, (s.provider.getApiKey key reachable).2)

def validateKey (s : Service) (key : String) (reachable : Bool) : Ending ApiKeyInfo × Service :=
  s.validateWith key (s.fetch key reachable)

/-- `VerifyKey`, the validator of the authentication middleware. -/
def verifyKey (s : Service) (key : String) (reachable : Bool) : Ending Identity × Service :=
  ((s.validateKey key reachable).1.andThen fun info =>
    .ok
      { tenant := info.tenant
        userID := info.userID
        workspaceID := info.workspaceID
        userTenant := info.userTenant
        apiKeyID := info.keyID
        apiKeyHash := info.keyHash }, (s.validateKey key reachable).2)

def checkCredits (s : Service) (key : String) (reachable : Bool) : Ending Unit × Service :=
  s.checkCreditsWith key (s.fetch key reachable)

/-- `DeductCredits`; the two flags are the fortunes of its two provider calls. -/
def deductCredits (s : Service) (key : String) (credits : ℤ) (readable writable : Bool) :
    Ending ℤ × Service :=
  if credits ≤ 0 then (.returns (.ok 0), s)
  else
    match s.validateKey key readable with
    | (.panics, s) => (.panics, s)
    | (.returns (.error err), s) => (.returns (.error err), s)
    | (.returns (.ok info), s) =>
      if info.userID = "" then (.returns (.ok 0), s)
      else if info.credits = -1 then (.returns (.ok (-1)), s)
      else
        match s.provider.deductCredits key credits writable with
        | (.error err, provider) =>
          (if key.utf8ByteSize < 8 then .panics else .returns (.error err),
            { s with provider := provider })
        | (.ok newCredits, provider) =>
          (.returns (.ok newCredits), { s with provider := provider, cache := s.cache.remove key })

end Service

/-! ## What the operations do to the stored records -/

namespace Provider

/-- The balance a provider stores for a computed one. -/
def stored : Provider → ℤ → ℤ
  | redis _, x => x
  | http _ _, x => wrapInt64 x

/-- A read fails, or returns the stored record and keeps every record. -/
lemma getApiKey_cases (p : Provider) (key : String) (reachable : Bool) :
    (∃ err, p.getApiKey key reachable = (.error err, p)) ∨
    (∃ item p', p.getApiKey key reachable = (.ok item, p') ∧
      p.record key = some item ∧ p'.record = p.record ∧ p'.stored = p.stored) := by
  cases p with
  | redis records =>
    cases reachable with
    | false => exact .inl ⟨_, rfl⟩
    | true =>
      cases hi : (records key).filter hasOwner with
      | none => exact .inl ⟨_, by simp [getApiKey, hi]; rfl⟩
      | some item => exact .inr ⟨item, redis records, by simp [getApiKey, hi], hi, rfl, rfl⟩
  | http mem admin =>
    by_cases he : key = ""
    · exact .inl ⟨_, by simp [getApiKey, he]; rfl⟩
    cases hm : mem key with
    | some item =>
      exact .inr ⟨item, http mem admin, by simp [getApiKey, he, hm], by simp [record, hm],
        rfl, rfl⟩
    | none =>
      cases reachable with
      | false => exact .inl ⟨_, by simp [getApiKey, he, hm]; rfl⟩
      | true =>
        cases ha : admin key with
        | none => exact .inl ⟨_, by simp [getApiKey, he, hm, ha]; rfl⟩
        | some item =>
          refine .inr ⟨item, http (update mem key (some item)) admin,
            by simp [getApiKey, he, hm, ha], by simp [record, hm, ha], ?_, rfl⟩
          -- The fetched record moves to memory; a later read finds the same.
          funext key'
          by_cases hk : key' = key
          · subst hk
            simp [record, hm, ha]
          · simp [record, update_of_ne hk]

/-- A deduction fails and changes nothing, or leaves a record marked `-1` alone,
or stores the difference in that key's record. -/
lemma deductCredits_cases (p : Provider) (key : String) (credits : ℤ) (reachable : Bool) :
    (∃ err, p.deductCredits key credits reachable = (.error err, p)) ∨
    (∃ item, p.record key = some item ∧ item.credits = -1 ∧
      p.deductCredits key credits reachable = (.ok (-1), p)) ∨
    (∃ item p', p.record key = some item ∧
      p.deductCredits key credits reachable = (.ok (p.stored (item.credits - credits)), p') ∧
      p'.record = update p.record key
        (some { item with credits := p.stored (item.credits - credits) })) := by
  cases p with
  | redis records =>
    cases reachable with
    | false => exact .inl ⟨_, rfl⟩
    | true =>
      cases hi : (records key).filter hasOwner with
      | none => exact .inl ⟨_, by simp [deductCredits, hi]; rfl⟩
      | some item =>
        by_cases ho : item.credits - credits < -2 ^ 63
        · exact .inl ⟨_, by simp only [deductCredits, hi, ho, if_true]; rfl⟩
        refine .inr (.inr ⟨item, _, hi, by
          simp only [deductCredits, hi, ho, if_false]; rfl, ?_⟩)
        have hw : hasOwner item = true := (Option.filter_eq_some_iff.mp hi).2
        funext key'
        by_cases hk : key' = key
        · subst hk
          simp only [record, update_self, Option.filter]
          exact if_pos hw
        · simp [record, update_of_ne hk]
  | http mem admin =>
    cases hm : mem key with
    | none => exact .inl ⟨_, by simp [deductCredits, hm]; rfl⟩
    | some item =>
      have hi : (http mem admin).record key = some item := by simp [record, hm]
      by_cases hl : item.credits = -1
      · exact .inr (.inl ⟨item, hi, hl, by simp [deductCredits, hm, hl]⟩)
      refine .inr (.inr ⟨item, _, hi, by
        simp only [deductCredits, hm, hl, if_false]; rfl, ?_⟩)
      funext key'
      by_cases hk : key' = key
      · subst hk
        simp [record, stored]
      · simp [record, update_of_ne hk]

/-- What a deduction must avoid: landing on the unlimited marker, and wrapping
around where nothing refuses it. -/
def Deductible (p : Provider) (key : String) (credits : ℤ) : Prop :=
  p.balance key - credits ≠ -1 ∧
    match p with
    | redis _ => True
    | http _ _ => -2 ^ 63 ≤ p.balance key - credits

lemma Deductible.stored_eq {p : Provider} {key : String} {credits : ℤ}
    (h : p.Deductible key credits) (hp : 0 < credits) (hr : p.balance key < 2 ^ 63) :
    p.stored (p.balance key - credits) = p.balance key - credits := by
  cases p with
  | redis records => rfl
  | http mem admin => exact wrapInt64_of_range h.2 (by omega)

end Provider

/-! ## Runs -/

/-- What can happen to the service: its three operations on any key, time, and
the cache losing entries. -/
inductive Op where
  | verify (key : String) (reachable : Bool)
  | check (key : String) (reachable : Bool)
  | deduct (key : String) (credits : ℤ) (readable writable : Bool)
  | elapse (duration : ℕ)
  | evict (key : String) (value : Bool)
  | purgeCache

def step (s : Service) : Op → Service
  | .verify key reachable => (s.verifyKey key reachable).2
  | .check key reachable => (s.checkCredits key reachable).2
  | .deduct key credits readable writable => (s.deductCredits key credits readable writable).2
  | .elapse duration => { s with now := s.now + duration }
  | .evict key value => { s with cache := s.cache.evict key value }
  | .purgeCache => { s with cache := s.cache.purge }

/-- Every cached value is the stored record. -/
def Coherent (s : Service) : Prop :=
  s.cache.Holds fun key info => s.provider.record key = some info

lemma coherent_newApiKeyService (provider : Provider) (now : Nanos) :
    Coherent (newApiKeyService provider now) := by
  intro key entry he
  cases he

namespace Service
variable {s : Service}

/-- `ValidateKey` keeps the records and coherence, and returns the stored record
where it returns one. -/
lemma validateKey_spec (hs : Coherent s) (key : String) (reachable : Bool) :
    (s.validateKey key reachable).2.provider.record = s.provider.record ∧
    (s.validateKey key reachable).2.provider.stored = s.provider.stored ∧
    Coherent (s.validateKey key reachable).2 ∧
    ∀ info, (s.validateKey key reachable).1 = .returns (.ok info) →
      s.provider.record key = some info := by
  unfold validateKey validateWith fetch
  split
  · exact ⟨rfl, rfl, hs, fun info h => by cases h⟩
  · rename_i cached hc
    refine ⟨rfl, rfl, hs, fun info h => ?_⟩
    cases h
    exact ExpirableCache.Holds.get hs hc
  · rcases s.provider.getApiKey_cases key reachable with ⟨err, hget⟩ |
      ⟨item, p', hget, hi, hrec, ht⟩
    · rw [hget]
      dsimp only [Except.map]
      split
      · exact ⟨rfl, rfl, hs, fun info h => by cases h⟩
      · exact ⟨rfl, rfl, hs, fun info h => by cases h⟩
    · rw [hget]
      have hs' : s.cache.Holds fun key info => p'.record key = some info := by
        rw [hrec]
        exact hs
      dsimp only [Except.map, returning, acceptRecord, refuse]
      split
      · exact ⟨hrec, ht, hs', fun info h => by cases h⟩
      · split
        · exact ⟨hrec, ht, hs', fun info h => by cases h⟩
        · refine ⟨hrec, ht, hs'.addValid (by rw [hrec, hi]) s.now, fun info h => ?_⟩
          cases h
          exact hi

lemma checkCredits_exceeded {key : String} {reachable : Bool} {info : ApiKeyInfo}
    (hi : (s.validateKey key reachable).1 = .returns (.ok info)) (hu : info.userID ≠ "")
    (hl : info.credits ≠ -1) (hc : info.credits ≤ 0) :
    (s.checkCredits key reachable).1 = .returns (.error (.other "credits exceeded")) := by
  unfold validateKey at hi
  simp [checkCredits, checkCreditsWith, hi, Ending.andThen, Except.bind, checkRecord, hu, hl, hc]

/-- `DeductCredits` either leaves the records alone, and then it had no success, had
nothing to deduct, or saw a tenant key or the unlimited marker; or it stores the
difference of a personal key and forgets its cached copy. -/
lemma deductCredits_cases (hs : Coherent s) (key : String) (credits : ℤ)
    (readable writable : Bool) :
    let out := s.deductCredits key credits readable writable
    (out.2.provider.record = s.provider.record ∧ Coherent out.2 ∧
      (out.1.isOk = false ∨ credits ≤ 0 ∨
        ∃ info, s.provider.record key = some info ∧ (info.userID = "" ∨ info.credits = -1))) ∨
    (∃ info, s.provider.record key = some info ∧ info.userID ≠ "" ∧ 0 < credits ∧
      out.1 = .returns (.ok (s.provider.stored (info.credits - credits))) ∧
      out.2.provider.record = update s.provider.record key
        (some { info with credits := s.provider.stored (info.credits - credits) }) ∧
      Coherent out.2) := by
  intro out
  obtain ⟨hrec, ht, hs', hn⟩ := validateKey_spec hs key readable
  by_cases hp : credits ≤ 0
  · have ho : out = (.returns (.ok 0), s) := by simp [out, deductCredits, hp]
    rw [ho]
    exact .inl ⟨rfl, hs, .inr (.inl hp)⟩
  rcases hv : s.validateKey key readable with ⟨_ | (err | info), s'⟩
  · have ho : out = (.panics, s') := by simp [out, deductCredits, hp, hv]
    rw [hv] at hrec hs'
    rw [ho]
    exact .inl ⟨hrec, hs', .inl rfl⟩
  · have ho : out = (.returns (.error err), s') := by simp [out, deductCredits, hp, hv]
    rw [hv] at hrec hs'
    rw [ho]
    exact .inl ⟨hrec, hs', .inl rfl⟩
  rw [hv] at hrec ht hs' hn
  have hi : s.provider.record key = some info := hn info rfl
  by_cases hu : info.userID = ""
  · have ho : out = (.returns (.ok 0), s') := by simp [out, deductCredits, hp, hv, hu]
    rw [ho]
    exact .inl ⟨hrec, hs', .inr (.inr ⟨info, hi, .inl hu⟩)⟩
  by_cases hl : info.credits = -1
  · have ho : out = (.returns (.ok (-1)), s') := by simp [out, deductCredits, hp, hv, hu, hl]
    rw [ho]
    exact .inl ⟨hrec, hs', .inr (.inr ⟨info, hi, .inr hl⟩)⟩
  rcases s'.provider.deductCredits_cases key credits writable with
    ⟨err, hd⟩ | ⟨item, hi', hm, hd⟩ | ⟨item, p', hi', hd, hrec'⟩
  · have ho : out = (if key.utf8ByteSize < 8 then .panics else .returns (.error err), s') := by
      simp [out, deductCredits, hp, hv, hu, hl, hd]
    rw [ho]
    refine .inl ⟨hrec, hs', .inl ?_⟩
    split_ifs <;> rfl
  · -- The record just validated is the one the provider sees.
    rw [hrec, hi] at hi'
    cases hi'
    exact absurd hm hl
  · rw [hrec, hi] at hi'
    cases hi'
    have ho : out = (.returns (.ok (s'.provider.stored (info.credits - credits))),
        { s' with provider := p', cache := s'.cache.remove key }) := by
      simp [out, deductCredits, hp, hv, hu, hl, hd]
    rw [ho]
    rw [ht, hrec] at hrec'
    refine .inr ⟨info, hi, hu, by omega, by rw [ht], hrec', ?_⟩
    refine hs'.remove fun key' val hk hvl => ?_
    rw [hrec', update_of_ne hk, ← hrec]
    exact hvl

end Service

/-! ## The account of one key -/

/-- The key belongs to a user, not to a tenant: only then it has an account. -/
def personal (s : Service) (key : String) : Bool :=
  (s.provider.record key).any fun info => info.userID ≠ ""

/-- The amount an operation deducts from the key's account: the whole amount of
a positive deduction on a personal key that reports success, and else nothing. -/
def deducted (key : String) (s : Service) : Op → ℤ
  | .deduct key' credits readable writable =>
    if key' = key ∧ 0 < credits ∧ personal s key ∧
        (s.deductCredits key' credits readable writable).1.isOk then credits
    else 0
  | _ => 0

/-- The condition on each step: a deduction from the key's account neither lands
on the unlimited marker nor wraps. -/
def Safe (key : String) (s : Service) : Op → Prop
  | .deduct key' credits _ _ =>
    key' = key → 0 < credits → personal s key → s.provider.Deductible key credits
  | _ => True

/-- The key has a limited `int64` balance, and the cache tells the truth. -/
structure Limited (key : String) (s : Service) : Prop where
  coherent : Coherent s
  balance_ne : s.provider.balance key ≠ -1
  balance_lt : s.provider.balance key < 2 ^ 63

variable {key : String} {s : Service}

lemma Limited.of_balance_eq {s' : Service} (h : Limited key s) (hs' : Coherent s')
    (hb : s'.provider.balance key = s.provider.balance key) : Limited key s' :=
  ⟨hs', by rw [hb]; exact h.balance_ne, by rw [hb]; exact h.balance_lt⟩

lemma balance_eq_of_record_eq {p p' : Provider} (h : p'.record = p.record) (key : String) :
    p'.balance key = p.balance key := by
  simp [Provider.balance, h]

lemma deducted_of_no_effect {key' : String} {credits : ℤ} {readable writable : Bool}
    (hl : Limited key s)
    (h : (s.deductCredits key' credits readable writable).1.isOk = false ∨ credits ≤ 0 ∨
      ∃ info, s.provider.record key' = some info ∧ (info.userID = "" ∨ info.credits = -1)) :
    deducted key s (.deduct key' credits readable writable) = 0 := by
  refine if_neg ?_
  rintro ⟨rfl, hp, hr, ho⟩
  rcases h with he | hle | ⟨info, hi, hu | hm⟩
  · simp [he] at ho
  · omega
  · simp [personal, hi, hu] at hr
  · exact hl.balance_ne (by simp [Provider.balance, hi, hm])

/-- One step keeps the account limited and moves its balance by what it deducts. -/
lemma step_account (hl : Limited key s) (op : Op) (hf : Safe key s op) : Limited key (step s op) ∧
      (step s op).provider.balance key = s.provider.balance key - deducted key s op := by
  -- Every operation but a deduction keeps the records.
  have hkp : ∀ s' : Service, step s op = s' → Coherent s' →
      s'.provider.record = s.provider.record → deducted key s op = 0 →
      Limited key (step s op) ∧
        (step s op).provider.balance key = s.provider.balance key - deducted key s op := by
    intro s' ht hs' hr hz
    have hb := balance_eq_of_record_eq hr key
    rw [ht, hz, hb, Int.sub_zero]
    exact ⟨hl.of_balance_eq hs' hb, rfl⟩
  cases op with
  | verify key' reachable =>
    obtain ⟨hr, -, hs', -⟩ := validateKey_spec hl.coherent key' reachable
    exact hkp _ rfl hs' hr rfl
  | check key' reachable =>
    obtain ⟨hr, -, hs', -⟩ := validateKey_spec hl.coherent key' reachable
    exact hkp _ rfl hs' hr rfl
  | elapse duration => exact hkp _ rfl hl.coherent rfl rfl
  | evict key' val => exact hkp _ rfl (hl.coherent.evict key' val) rfl rfl
  | purgeCache => exact hkp _ rfl (ExpirableCache.holds_purge _ _) rfl rfl
  | deduct key' credits readable writable =>
    rcases deductCredits_cases hl.coherent key' credits readable writable with
      ⟨hr, hs', hc⟩ | ⟨info, hi, hu, hp, ho, hr, hs'⟩
    · exact hkp _ rfl hs' hr (deducted_of_no_effect hl hc)
    · by_cases hk : key' = key
      · subst hk
        have hb : s.provider.balance key' = info.credits := by simp [Provider.balance, hi]
        have hpr : personal s key' = true := by simp [personal, hi, hu]
        have hd := hf rfl hp hpr
        have hst := hd.stored_eq hp hl.balance_lt
        have hn : (step s (.deduct key' credits readable writable)).provider.balance key' =
            s.provider.balance key' - credits := by
          simp only [step, Provider.balance, hr, update_self, Option.map_some, Option.getD_some]
          rw [← hb, hst]
          rfl
        have ha : deducted key' s (.deduct key' credits readable writable) = credits :=
          if_pos ⟨rfl, hp, hpr, by rw [ho]; rfl⟩
        rw [ha]
        exact ⟨⟨hs', by rw [hn]; exact hd.1, by
          rw [hn]; have := hl.balance_lt; omega⟩, hn⟩
      · have hb : (step s (.deduct key' credits readable writable)).provider.balance key =
            s.provider.balance key := by
          simp [step, Provider.balance, hr, update_of_ne (Ne.symm hk)]
        have hz : deducted key s (.deduct key' credits readable writable) = 0 :=
          if_neg fun h => hk h.1
        rw [hz, Int.sub_zero]
        exact ⟨hl.of_balance_eq hs' hb, hb⟩

/-- Over a run of safe steps the balance falls by exactly what was deducted. -/
lemma run_balance (hl : Limited key s) (ops : List Op) (hf : Along step (Safe key) s ops) :
    (run step s ops).provider.balance key =
      s.provider.balance key - runSum step (deducted key) s ops := by
  have hp := run_eq_add_runSum step (Limited key) (fun s => -s.provider.balance key)
    (deducted key) (fun _ op hs hg => (step_account hs op hg).1)
    (fun s op hs hg => by have := (step_account hs op hg).2; omega) hl ops hf
  omega

/-- Credits are a bounded account. From any coherent state, over any run in which
no deduction from the key lands on the unlimited marker or wraps, and after each
of its steps: the balance is the initial one minus the amounts deducted, it is
not the marker, every successful validation reads exactly that balance, and the
credit check of a personal key refuses when what it reads is not positive. -/
theorem credits_bounded_account (key : String) (s : Service) (hs : Coherent s)
    (hlimited : s.provider.balance key ≠ -1) (hint64 : s.provider.balance key < 2 ^ 63)
    (ops : List Op) (hsafe : Along step (Safe key) s ops) :
    ∀ front, front <+: ops → (run step s front).provider.balance key =
        s.provider.balance key - runSum step (deducted key) s front ∧
      (run step s front).provider.balance key ≠ -1 ∧
      ∀ reachable info, ((run step s front).validateKey key reachable).1 = .returns (.ok info) →
        info.credits = (run step s front).provider.balance key ∧
        (info.userID ≠ "" → info.credits ≤ 0 → ((run step s front).checkCredits key reachable).1 =
            .returns (.error (.other "credits exceeded"))) := by
  intro front hf
  have hl : Limited key s := ⟨hs, hlimited, hint64⟩
  have hsafe' := hsafe.of_isPrefix step hf
  have he : Limited key (run step s front) :=
    run_invariant_along step (Limited key) (fun _ op hs hg => (step_account hs op hg).1) hl
      front hsafe'
  refine ⟨run_balance hl front hsafe', he.balance_ne, ?_⟩
  intro reachable info hi
  obtain ⟨-, -, -, hrc⟩ := validateKey_spec he.coherent key reachable
  have hr : info.credits = (run step s front).provider.balance key := by
    simp [Provider.balance, hrc info hi]
  refine ⟨hr, fun hu hc => ?_⟩
  exact checkCredits_exceeded hi hu (by rw [hr]; exact he.balance_ne) hc

/-- A Redis provider with one personal key. -/
def oneKey (credits : ℤ) : Service :=
  newApiKeyService
    (.redis fun key => if key = "sk-alice-1" then some { userID := "alice", credits := credits }
      else none) 0

/-- With one credit left, a request that costs two brings the balance to `-1`.
From then on the check admits the key and deductions report success without
deducting. -/
theorem overdraft_by_one_becomes_unlimited :
    (run step (oneKey 1) [.deduct "sk-alice-1" 2 true true]).provider.balance "sk-alice-1" = -1 ∧
    ((run step (oneKey 1) [.deduct "sk-alice-1" 2 true true]).checkCredits "sk-alice-1" true).1 =
      .returns (.ok ()) ∧
    (run step (oneKey 1) [.deduct "sk-alice-1" 2 true true,
      .deduct "sk-alice-1" 500 true true]).provider.balance "sk-alice-1" = -1 ∧
    runSum step (deducted "sk-alice-1") (oneKey 1) [.deduct "sk-alice-1" 2 true true,
      .deduct "sk-alice-1" 500 true true] = 502 := by
  decide +kernel

/-- The account of a key with ten credits that pays three and then nine. -/
theorem credits_bounded_account_ten :
    (run step (oneKey 10) [.deduct "sk-alice-1" 3 true true, .check "sk-alice-1" true,
        .deduct "sk-alice-1" 9 true true]).provider.balance "sk-alice-1" =
      (oneKey 10).provider.balance "sk-alice-1" - runSum step (deducted "sk-alice-1") (oneKey 10)
        [.deduct "sk-alice-1" 3 true true, .check "sk-alice-1" true,
          .deduct "sk-alice-1" 9 true true] :=
  (credits_bounded_account "sk-alice-1" (oneKey 10) (coherent_newApiKeyService _ _)
    (by decide +kernel) (by decide +kernel)
    [.deduct "sk-alice-1" 3 true true, .check "sk-alice-1" true, .deduct "sk-alice-1" 9 true true]
    ⟨fun _ _ _ => ⟨by decide +kernel, trivial⟩, trivial,
      fun _ _ _ => ⟨by decide +kernel, trivial⟩, trivial⟩ _ List.prefix_rfl).1

end TokenliveGateway.CreditAccount
