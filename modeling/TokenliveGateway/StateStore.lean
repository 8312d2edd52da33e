import TokenliveGateway.GatewayContext
import TokenliveGateway.PostingLedger

/-!
# The limit store and what is posted to it

`core.StateStore` as far as limits use it: fixed-window counters and token buckets, under
separate key spaces. The store is any state with these four operations, so its answers are
arbitrary. A `World` pairs it with the clock and a ledger of the amounts that took effect:
an operation that fails, or a take that is not allowed, posts nothing.
-/
namespace TokenliveGateway
open PostingLedger

/-- The limit operations of `core.StateStore`. -/
structure StateStore (σ : Type) where
  /-- adds to a counter and returns the usage in the window -/
  rateLimitIncr (s : σ) (key : String) (tokens : ℤ) (window now : Nanos) : Except GoError ℤ × σ
  rateLimitRefund (s : σ) (key : String) (tokens : ℤ) : Except GoError Unit × σ
  /-- takes from a bucket, if allowed, and returns what remains -/
  rateLimitTake (s : σ) (key : String) (tokens rate capacity : ℤ) (window now : Nanos) :
    Except GoError (Bool × ℤ) × σ
  rateLimitAdjust (s : σ) (key : String) (tokens rate capacity : ℤ) (window now : Nanos) :
    Except GoError ℤ × σ

/-- Every operation succeeds, and a bucket never refuses a refund. -/
structure StateStore.Reliable {σ : Type} (ss : StateStore σ) : Prop where
  incr : ∀ s key tokens window now, ∃ current s',
    ss.rateLimitIncr s key tokens window now = (.ok current, s')
  refund : ∀ s key tokens, ∃ s', ss.rateLimitRefund s key tokens = (.ok (), s')
  take : ∀ s key tokens rate capacity window now, ∃ allowed remaining s',
    ss.rateLimitTake s key tokens rate capacity window now = (.ok (allowed, remaining), s') ∧
      (tokens < 0 → allowed = true)
  adjust : ∀ s key tokens rate capacity window now, ∃ remaining s',
    ss.rateLimitAdjust s key tokens rate capacity window now = (.ok remaining, s')

inductive Account where
  | counter (key : String)
  | bucket (key : String)
  deriving Repr, DecidableEq

abbrev Ledger := List (Posting Account)

/-- The store with the current time and the postings made so far. -/
structure World (σ : Type) where
  store : σ
  now : Nanos
  ledger : Ledger := []

namespace World
variable {σ : Type} (ss : StateStore σ) (w : World σ)

def post (store : σ) (account : Account) (amount : ℤ) : World σ :=
  { w with store := store, ledger := w.ledger ++ [⟨account, amount⟩] }

def incr (key : String) (tokens : ℤ) (window : Nanos) : Except GoError ℤ × World σ :=
  match ss.rateLimitIncr w.store key tokens window w.now with
  | (.ok current, store) => (.ok current, w.post store (.counter key) tokens)
  | (.error err, store) => (.error err, { w with store := store })

def refund (key : String) (tokens : ℤ) : Except GoError Unit × World σ :=
  match ss.rateLimitRefund w.store key tokens with
  | (.ok (), store) => (.ok (), w.post store (.counter key) (-tokens))
  | (.error err, store) => (.error err, { w with store := store })

def take (key : String) (tokens rate capacity : ℤ) (window : Nanos) :
    Except GoError (Bool × ℤ) × World σ :=
  match ss.rateLimitTake w.store key tokens rate capacity window w.now with
  | (.ok (true, remaining), store) =>
    (.ok (true, remaining), w.post store (.bucket key) tokens)
  | (.ok (false, remaining), store) => (.ok (false, remaining), { w with store := store })
  | (.error err, store) => (.error err, { w with store := store })

def adjust (key : String) (tokens rate capacity : ℤ) (window : Nanos) :
    Except GoError ℤ × World σ :=
  match ss.rateLimitAdjust w.store key tokens rate capacity window w.now with
  | (.ok remaining, store) => (.ok remaining, w.post store (.bucket key) tokens)
  | (.error err, store) => (.error err, { w with store := store })

/-! Any store: an operation fails and posts nothing, or succeeds and is posted. -/

lemma incr_cases (key : String) (tokens : ℤ) (window : Nanos) :
    (∃ err w', w.incr ss key tokens window = (.error err, w') ∧ w'.ledger = w.ledger) ∨
    (∃ current w', w.incr ss key tokens window = (.ok current, w') ∧
      w'.ledger = w.ledger ++ [⟨.counter key, tokens⟩]) := by
  unfold incr
  obtain ⟨answer | current, store⟩ := ss.rateLimitIncr w.store key tokens window w.now
  · exact .inl ⟨_, _, rfl, rfl⟩
  · exact .inr ⟨_, _, rfl, rfl⟩

lemma refund_cases (key : String) (tokens : ℤ) :
    (∃ err w', w.refund ss key tokens = (.error err, w') ∧ w'.ledger = w.ledger) ∨
    (∃ w', w.refund ss key tokens = (.ok (), w') ∧
      w'.ledger = w.ledger ++ [⟨.counter key, -tokens⟩]) := by
  unfold refund
  obtain ⟨answer | ⟨⟩, store⟩ := ss.rateLimitRefund w.store key tokens
  · exact .inl ⟨_, _, rfl, rfl⟩
  · exact .inr ⟨_, rfl, rfl⟩

lemma adjust_cases (key : String) (tokens rate cap : ℤ) (window : Nanos) :
    (∃ err w', w.adjust ss key tokens rate cap window = (.error err, w') ∧
      w'.ledger = w.ledger) ∨
    (∃ remaining w', w.adjust ss key tokens rate cap window = (.ok remaining, w') ∧
      w'.ledger = w.ledger ++ [⟨.bucket key, tokens⟩]) := by
  unfold adjust
  obtain ⟨answer | remaining, store⟩ :=
    ss.rateLimitAdjust w.store key tokens rate cap window w.now
  · exact .inl ⟨_, _, rfl, rfl⟩
  · exact .inr ⟨_, _, rfl, rfl⟩

variable {ss} (hss : ss.Reliable)
include hss

variable (key : String)

lemma incr_reliable (tokens : ℤ) (window : Nanos) :
    ∃ cur, (w.incr ss key tokens window).1 = .ok cur ∧
      (w.incr ss key tokens window).2.ledger = w.ledger ++ [⟨.counter key, tokens⟩] := by
  obtain ⟨cur, s', h⟩ := hss.incr w.store key tokens window w.now
  exact ⟨cur, by simp [incr, h], by simp [incr, h, post]⟩

lemma refund_reliable (tokens : ℤ) : (w.refund ss key tokens).1 = .ok () ∧
      (w.refund ss key tokens).2.ledger = w.ledger ++ [⟨.counter key, -tokens⟩] := by
  obtain ⟨s', h⟩ := hss.refund w.store key tokens
  exact ⟨by simp [refund, h], by simp [refund, h, post]⟩

lemma adjust_reliable (tokens rate cap : ℤ) (window : Nanos) :
    (∃ rem, (w.adjust ss key tokens rate cap window).1 = .ok rem) ∧
      (w.adjust ss key tokens rate cap window).2.ledger =
        w.ledger ++ [⟨.bucket key, tokens⟩] := by
  obtain ⟨rem, s', h⟩ := hss.adjust w.store key tokens rate cap window w.now
  exact ⟨⟨rem, by simp [adjust, h]⟩, by simp [adjust, h, post]⟩

lemma take_reliable (tokens rate cap : ℤ) (window : Nanos) :
    (∃ rem, (w.take ss key tokens rate cap window).1 = .ok (true, rem) ∧
      (w.take ss key tokens rate cap window).2.ledger = w.ledger ++ [⟨.bucket key, tokens⟩]) ∨
    (∃ rem, (w.take ss key tokens rate cap window).1 = .ok (false, rem) ∧
      (w.take ss key tokens rate cap window).2.ledger = w.ledger ∧ 0 ≤ tokens) := by
  obtain ⟨allowed, rem, s', h, hn⟩ := hss.take w.store key tokens rate cap window w.now
  cases allowed with
  | true => exact .inl ⟨rem, by simp [take, h], by simp [take, h, post]⟩
  | false =>
    refine .inr ⟨rem, by simp [take, h], by simp [take, h], ?_⟩
    by_contra hl
    have := hn (by omega)
    cases this

end World
end TokenliveGateway
