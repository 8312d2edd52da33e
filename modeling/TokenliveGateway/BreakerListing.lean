import TokenliveGateway.BreakerRouter

/-!
# Notifications of state changes

The pairs of states that the manager passes to `onStateChange`. `GetOpenBreakers` computes
the state of every entry like the other queries, but tells nobody; and a version check that
resets an entry reports that it was open without looking.
-/
namespace TokenliveGateway.Breaker
open LabelledRuns Manager

inductive Operation where
  | step (l : Label)
  | getOpenBreakers (now : Nanos)

namespace Manager
variable (s : Manager)

/-- Every entry has its state computed. -/
def lookAtAll (now : Nanos) : Manager :=
  { s with entries := fun key => (s.entries key).computeState now }

def perform : Operation → Manager
  | .step l => Breaker.step s l
  | .getOpenBreakers now => s.lookAtAll now

def versionReset (l : Label) : Option String :=
  match s.change l, l with
  | some (_, .reset), .reset _ => none
  | some (key, .reset), _ => some key
  | _, _ => none

/-- The pairs that an operation passes to `onStateChange` for the key. -/
def notes (key : String) : Operation → List (CircuitState × CircuitState)
  | .getOpenBreakers _ => []
  | .step l =>
    let old := (s.entries key).state
    let new := ((Breaker.step s l).entries key).state
    if s.versionReset l = some key then [(.circuitOpen, .circuitClosed)]
    else if (s.change l).any fun change => change.1 = key then
      if old ≠ new then [(old, new)] else []
    else []

end Manager

/-- The pairs of a whole run. -/
def history (key : String) : Manager → List Operation → List (CircuitState × CircuitState)
  | _, [] => []
  | s, op :: ops => s.notes key op ++ history key (s.perform op) ops

/-- The pairs lead from one state to the other, by changes that follow each other. -/
def Linked {α : Type*} : α → List (α × α) → α → Prop
  | a, [], b => a = b
  | a, (x, y) :: pairs, b => x = a ∧ x ≠ y ∧ Linked y pairs b

lemma linked_append {α : Type*} {a b c : α} {ps ps' : List (α × α)}
    (h : Linked a ps b) : Linked a (ps ++ ps') c ↔ Linked b ps' c := by
  induction ps generalizing a with
  | nil => rw [show a = b from h, List.nil_append]
  | cons pair ps ih =>
    obtain ⟨hf, hc, hr⟩ := h
    exact ⟨fun h' => (ih hr).mp h'.2.2, fun h' => ⟨hf, hc, (ih hr).mpr h'⟩⟩

section Notifications
variable (key : String)

/-- A listing leaves the state of the key, and a version check resets it from open. -/
def Told (s : Manager) : Operation → Prop
  | .step l => s.versionReset l = some key → (s.entries key).state = .circuitOpen
  | .getOpenBreakers now => ((s.entries key).computeState now).state = (s.entries key).state

lemma change_of_versionReset {s : Manager} {l : Label} (h : s.versionReset l = some key) :
    s.change l = some (key, .reset) := by
  unfold versionReset at h
  split at h <;> simp_all

lemma linked_notes_iff (s : Manager) (op : Operation) :
    Linked (s.entries key).state (s.notes key op) ((s.perform op).entries key).state ↔
      Told key s op := by
  cases op with
  | getOpenBreakers now => exact eq_comm
  | step l =>
    obtain ⟨ht, hk⟩ := step_changesTo s l key
    unfold notes Told
    dsimp only [perform]
    by_cases hr : s.versionReset l = some key
    · have hl := (ht _ (change_of_versionReset key hr)).closed
      simp [hr, hl, Linked, eq_comm]
    · rw [if_neg hr]
      refine iff_of_true ?_ fun h => absurd h hr
      by_cases hh : (s.change l).any (fun change => change.1 = key) = true
      · split_ifs with hs
        · exact ⟨rfl, hs, rfl⟩
        · exact not_not.mp hs
      · rw [if_neg hh]
        have hm := hk fun c hc => hh (by simp [hc])
        exact (congrArg Entry.state hm).symm

lemma linked_history_iff (s : Manager) (ops : List Operation) :
    (∀ pre, pre <+: ops → Linked (s.entries key).state (history key s pre)
        ((run perform s pre).entries key).state) ↔
      Along perform (Told key) s ops := by
  induction ops generalizing s with
  | nil => simp [Along, history, Linked]
  | cons op ops ih =>
    have hs := linked_notes_iff key s op
    constructor
    · intro h
      have hr := h [op] ⟨ops, rfl⟩
      rw [history, history, List.append_nil] at hr
      refine ⟨hs.mp hr, (ih _).mp fun pre hf => ?_⟩
      exact (linked_append hr).mp (h (op :: pre) (List.cons_prefix_cons.mpr ⟨rfl, hf⟩))
    · rintro ⟨ht, he⟩ pre hf
      cases pre with
      | nil => rfl
      | cons op' pre =>
        obtain ⟨rfl, hrf⟩ := List.cons_prefix_cons.mp hf
        exact (linked_append (hs.mpr ht)).mpr ((ih _).mpr he pre hrf)

/-- After every operation of a run the notifications for a key lead from closed to its
stored state exactly if no listing changed that state and every version check that reset
the key found it open. -/
theorem notifications_linked_iff (ops : List Operation) :
    (∀ front, front <+: ops → Linked .circuitClosed (history key newManager front)
        ((run Manager.perform newManager front).entries key).state) ↔
      Along Manager.perform (Told key) newManager ops :=
  linked_history_iff key newManager ops

end Notifications

/-- A breaker opens, and is listed after its recovery timeout. -/
def failedAndListed : List Operation :=
  [.step (.recordRaw "k" false 0 1 1 1 1), .getOpenBreakers 2]

/-- A new version of a policy is reported as the end of an opening that never was; and a
listing takes an open breaker to half-open without a word. -/
theorem notifications_not_linked :
    history "k" newManager [.step (.versionChange "k" 1), .step (.versionChange "k" 2)] =
      [(.circuitOpen, .circuitClosed)] ∧
    history "k" newManager failedAndListed = [(.circuitClosed, .circuitOpen)] ∧
    ((run Manager.perform newManager failedAndListed).entries "k").state = .circuitHalfOpen := by
  decide +kernel

end TokenliveGateway.Breaker
