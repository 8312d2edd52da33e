import TokenliveGateway.GatewayContext

/-!
# The two-sided expirable cache

`store.ExpirableCache` keeps valid values and error messages under separate
lifetimes. The size bound of the underlying LRU only ever drops entries, so it
is modelled by `evict`, which may be applied to any key at any time. An entry is
served up to and including its expiry instant.
-/
namespace TokenliveGateway
open Function Option

/-- A cached value with the instant after which it is no longer served. -/
structure CacheEntry (V : Type) where
  value : V
  expiresAt : Nanos

structure ExpirableCache (K V : Type) where
  valid : K → Option (CacheEntry V)
  invalid : K → Option (CacheEntry String)
  validTTL : Nanos
  invalidTTL : Nanos

open ExpirableCache

namespace ExpirableCache
variable {K V : Type} [DecidableEq K]

/-- `NewExpirableCache`. -/
def new (validTTL invalidTTL : Nanos) : ExpirableCache K V where
  valid := fun _ => none
  invalid := fun _ => none
  validTTL := validTTL
  invalidTTL := invalidTTL

/-- An expirable lookup. -/
def fresh {A : Type} (entry : Option (CacheEntry A)) (now : Nanos) : Option A :=
  entry.bind fun e => if e.expiresAt < now then none else some e.value

/-- `Get`: an unexpired error message comes first, then an unexpired value. -/
def get (c : ExpirableCache K V) (key : K) (now : Nanos) : Option (Except String V) :=
  match fresh (c.invalid key) now with
  | some errMsg => some (.error errMsg)
  | none => (fresh (c.valid key) now).map .ok

def addValid (c : ExpirableCache K V) (key : K) (value : V) (now : Nanos) : ExpirableCache K V :=
  { c with valid := Function.update c.valid key (some ⟨value, now + c.validTTL⟩) }

def addInvalid (c : ExpirableCache K V) (key : K) (errMsg : String) (now : Nanos) :
    ExpirableCache K V :=
  { c with invalid := Function.update c.invalid key (some ⟨errMsg, now + c.invalidTTL⟩) }

def remove (c : ExpirableCache K V) (key : K) : ExpirableCache K V :=
  { c with
    valid := Function.update c.valid key none
    invalid := Function.update c.invalid key none }

def purge (c : ExpirableCache K V) : ExpirableCache K V :=
  { c with valid := fun _ => none, invalid := fun _ => none }

/-- The LRU drops the value, or the message, of some key. -/
def evict (c : ExpirableCache K V) (key : K) (value : Bool) : ExpirableCache K V :=
  if value then { c with valid := Function.update c.valid key none }
  else { c with invalid := Function.update c.invalid key none }

/-- What every cached value satisfies. -/
def Holds (P : K → V → Prop) (c : ExpirableCache K V) : Prop :=
  ∀ key entry, c.valid key = some entry → P key entry.value

/-- What every cached error message satisfies. -/
def Denies (P : K → String → Prop) (c : ExpirableCache K V) : Prop :=
  ∀ key entry, c.invalid key = some entry → P key entry.value

omit [DecidableEq K] in
lemma Denies.get {P : K → String → Prop} {c : ExpirableCache K V} (h : c.Denies P) {key : K}
    {now : Nanos} {errMsg : String} (hg : c.get key now = some (.error errMsg)) :
    P key errMsg := by
  unfold ExpirableCache.get at hg
  split at hg
  next msg hm =>
    obtain rfl : msg = errMsg := by simpa using hg
    cases he : c.invalid key with
    | none => simp [fresh, he] at hm
    | some entry =>
      simp only [fresh, he, bind_some] at hm
      split_ifs at hm
      · cases hm
        exact h key entry he
  next =>
    obtain ⟨val, -, hv⟩ := map_eq_some_iff.mp hg
    cases hv

variable {P : K → V → Prop} {c : ExpirableCache K V} {key : K}

lemma Denies.addInvalid {P : K → String → Prop} (h : c.Denies P) {em : String}
    (hm : P key em) (now : Nanos) : (c.addInvalid key em now).Denies P := by
  intro key' entry he
  by_cases hk : key' = key
  · subst hk
    simp only [ExpirableCache.addInvalid, update_self, some.injEq] at he
    exact he ▸ hm
  · simp only [ExpirableCache.addInvalid, update_of_ne hk] at he
    exact h key' entry he

lemma Denies.evict {P : K → String → Prop} (h : c.Denies P) (key : K) (val : Bool) :
    (c.evict key val).Denies P := by
  intro key' entry he
  cases val with
  | true => exact h key' entry he
  | false =>
    by_cases hk : key' = key
    · subst hk
      simp [ExpirableCache.evict] at he
    · simp only [ExpirableCache.evict, Bool.false_eq_true, if_false, update_of_ne hk] at he
      exact h key' entry he

omit [DecidableEq K] in
/-- A value that is served is a stored one that has not expired. -/
lemma exists_of_get_ok {now : Nanos} {val : V} (hg : c.get key now = some (.ok val)) :
    ∃ entry, c.valid key = some entry ∧ entry.value = val ∧ now ≤ entry.expiresAt := by
  unfold get at hg
  split at hg
  · cases hg
  · cases he : c.valid key with
    | none => simp [fresh, he] at hg
    | some entry =>
      simp only [fresh, he, bind_some] at hg
      split_ifs at hg with hx
      · cases hg
      · cases hg
        exact ⟨entry, rfl, rfl, not_lt.mp hx⟩

omit [DecidableEq K] in
lemma Holds.get {P : K → V → Prop} {c : ExpirableCache K V} (h : c.Holds P) {key : K}
    {now : Nanos} {value : V} (hg : c.get key now = some (.ok value)) : P key value := by
  obtain ⟨entry, he, rfl, -⟩ := exists_of_get_ok hg
  exact h key entry he

lemma Holds.addValid (h : c.Holds P) {val : V} (hv : P key val) (now : Nanos) :
    (c.addValid key val now).Holds P := by
  intro key' entry he
  by_cases hk : key' = key
  · subst hk
    simp only [ExpirableCache.addValid, update_self, some.injEq] at he
    exact he ▸ hv
  · simp only [ExpirableCache.addValid, update_of_ne hk] at he
    exact h key' entry he

lemma valid_of_evict {key' : K} {val : Bool} {entry : CacheEntry V}
    (h : (c.evict key val).valid key' = some entry) : c.valid key' = some entry := by
  cases val with
  | false => exact h
  | true =>
    by_cases hk : key' = key
    · subst hk
      simp [evict] at h
    · simpa [evict, update_of_ne hk] using h

lemma valid_of_remove {key' : K} {entry : CacheEntry V}
    (h : (c.remove key).valid key' = some entry) : key' ≠ key ∧ c.valid key' = some entry := by
  by_cases hk : key' = key
  · subst hk
    simp [remove] at h
  · exact ⟨hk, by simpa only [remove, update_of_ne hk] using h⟩

/-- After a removal nothing is claimed about the removed key. -/
lemma Holds.remove {Q : K → V → Prop} (h : c.Holds P)
    (hQ : ∀ key' val, key' ≠ key → P key' val → Q key' val) : (c.remove key).Holds Q := by
  intro key' entry he
  obtain ⟨hk, he⟩ := valid_of_remove he
  exact hQ key' entry.value hk (h key' entry he)

lemma Holds.evict (h : c.Holds P) (key : K) (val : Bool) : (c.evict key val).Holds P :=
  fun key' entry he => h key' entry (valid_of_evict he)

omit [DecidableEq K] in
lemma holds_purge (P : K → V → Prop) (c : ExpirableCache K V) : c.purge.Holds P := by
  intro key entry he
  cases he

omit [DecidableEq K] in
lemma denies_purge (P : K → String → Prop) (c : ExpirableCache K V) : c.purge.Denies P := by
  intro key entry he
  cases he

lemma get_addValid {now : Nanos} (hm : c.get key now = none) (ht : 0 ≤ c.validTTL)
    (val : V) : (c.addValid key val now).get key now = some (.ok val) := by
  unfold get at hm ⊢
  simp only [addValid, update_self, fresh, bind_some]
  split at hm
  · cases hm
  · next hn =>
    simp only [fresh] at hn
    rw [hn, if_neg (not_lt.mpr (le_add_of_nonneg_right ht))]
    rfl

lemma get_addInvalid (ht : 0 ≤ c.invalidTTL) (key : K) (now : Nanos) (em : String) :
    (c.addInvalid key em now).get key now = some (.error em) := by
  unfold get
  simp only [addInvalid, update_self, fresh, bind_some]
  rw [if_neg (not_lt.mpr (le_add_of_nonneg_right ht))]

end ExpirableCache
end TokenliveGateway
