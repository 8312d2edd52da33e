import Mathlib.Tactic.TypeStar

/-!
# Loops with early exits

A loop over a list of items whose body may go on, break out of the loop, or return from
the function around it. A body that keeps an invariant gives a loop that does; the
invariant may speak of the items that were read so far.
-/
namespace TokenliveGateway.ReadLoops
variable {α σ τ ρ : Type*}

/-- How a body ends. -/
inductive Flow (σ ρ : Type*) where
  | next (s : σ)
  | leave (s : σ)
  | ret (r : ρ)

namespace Flow

/-- Goes on with `f` unless the loop is left or the function returns. -/
def bind (flow : Flow σ ρ) (f : σ → Flow σ ρ) : Flow σ ρ :=
  match flow with
  | next s => f s
  | leave s => leave s
  | ret r => ret r

/-- The same ends on another state. -/
def map (f : σ → τ) : Flow σ ρ → Flow τ ρ
  | next s => next (f s)
  | leave s => leave (f s)
  | ret r => ret r

/-- The result of the function around: what follows the end of the loop, what follows a
break, or what was returned. -/
def elim (next leave : σ → ρ) : Flow σ ρ → ρ
  | .next s => next s
  | .leave s => leave s
  | .ret r => r

/-- One postcondition for each way to end. -/
def Ends (I L : σ → Prop) (R : ρ → Prop) : Flow σ ρ → Prop
  | next s => I s
  | leave s => L s
  | ret r => R r

variable {I I' L : σ → Prop} {R : ρ → Prop} {flow : Flow σ ρ} (h : flow.Ends I L R)
include h

theorem Ends.bind {f : σ → Flow σ ρ} (hf : ∀ s, I s → (f s).Ends I' L R) :
    (flow.bind f).Ends I' L R := by
  cases flow with
  | next s => exact hf s h
  | leave s => exact h
  | ret r => exact h

theorem Ends.map {f : σ → τ} {J M : τ → Prop} (hI : ∀ s, I s → J (f s))
    (hL : ∀ s, L s → M (f s)) : (flow.map f).Ends J M R := by
  cases flow with
  | next s => exact hI s h
  | leave s => exact hL s h
  | ret r => exact h

theorem Ends.imp {L' : σ → Prop} {R' : ρ → Prop} (hI : ∀ s, I s → I' s)
    (hL : ∀ s, L s → L' s) (hR : ∀ r, R r → R' r) : flow.Ends I' L' R' := by
  cases flow with
  | next s => exact hI s h
  | leave s => exact hL s h
  | ret r => exact hR r h

theorem Ends.elim {next leave : σ → ρ} {R' : ρ → Prop}
    (hI : ∀ s, I s → R' (next s)) (hL : ∀ s, L s → R' (leave s)) (hR : ∀ r, R r → R' r) :
    R' (flow.elim next leave) := by
  cases flow with
  | next s => exact hI s h
  | leave s => exact hL s h
  | ret r => exact hR r h

omit h

theorem Ends.exists_next (h : flow.Ends I (fun _ => False) fun _ => False) :
    ∃ s, flow = .next s ∧ I s := by
  cases flow with
  | next s => exact ⟨s, rfl, h⟩
  | leave s => cases h
  | ret r => cases h

end Flow

/-- The body on one item after another. -/
def loop (body : α → σ → Flow σ ρ) : List α → σ → Flow σ ρ
  | [], s => .next s
  | a :: rest, s => (body a s).bind (loop body rest)

/-- A loop keeps what its body keeps, `I` being told which items were read. -/
theorem loop_ends_along {body : α → σ → Flow σ ρ} {I : List α → σ → Prop} {L : σ → Prop}
    {R : ρ → Prop} (hb : ∀ read a s, I read s → (body a s).Ends (I (read ++ [a])) L R)
    (xs read : List α) (s : σ) (hs : I read s) :
    (loop body xs s).Ends (I (read ++ xs)) L R := by
  induction xs generalizing read s with
  | nil =>
    rw [List.append_nil]
    exact hs
  | cons a rest ih =>
    have hr := (hb read a s hs).bind (ih (read ++ [a]))
    rwa [List.append_assoc] at hr

theorem loop_ends {body : α → σ → Flow σ ρ} {I L : σ → Prop} {R : ρ → Prop} {xs : List α}
    (hb : ∀ a ∈ xs, ∀ s, I s → (body a s).Ends I L R) (s : σ) (hs : I s) :
    (loop body xs s).Ends I L R := by
  induction xs generalizing s with
  | nil => exact hs
  | cons a rest ih =>
    have hr := ih fun a' ha' => hb a' (List.mem_cons_of_mem a ha')
    exact (hb a List.mem_cons_self s hs).bind hr

end TokenliveGateway.ReadLoops
