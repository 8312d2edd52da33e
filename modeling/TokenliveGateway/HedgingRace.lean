import TokenliveGateway.HedgingSession
import TokenliveGateway.WriteRace

/-!
# The hedging session is a race of writers

Every step of a hedging session is a move of the write race between the two sub-calls,
owned by the session's winner. `Claims` keeps the session's two records of the winner and
the writers' own flags together. `Holds` says what the invoking thread knows: once it has
left its loop it holds the sub-call that owns the race, and what it returns is a copy of
that sub-call's finished context.
-/
namespace TokenliveGateway.Hedging
open LabelledRuns WriteRace SubPhase MainPhase Session Function Move Option

/-! ## The pair of endpoints -/

section Choice
variable {τ : Type} {hi : HedgingInvoker τ}

lemma HedgingInvoker.loadBalancer_mem {g : GatewayContext} {lb : LoadBalancer τ}
    (h : hi.loadBalancer g = some lb) : ∃ name, (name, lb) ∈ hi.loadBalancers := by
  have hk : ∀ name, hi.loadBalancers.lookup name = some lb →
      ∃ name, (name, lb) ∈ hi.loadBalancers := by
    intro name hn
    obtain ⟨pre, rest, hl, -⟩ := List.lookup_eq_some_iff.mp hn
    exact ⟨name, by simp [hl]⟩
  simp only [loadBalancer, orElse_eq_some, bind_eq_some_iff] at h
  grind

/-- Two endpoints that a load balancer picks from what it is given have distinct
ids and are among the candidates. -/
lemma HedgingInvoker.selectTwoEndpoints_distinct
    (hl : ∀ entry ∈ hi.loadBalancers, entry.2.Selects) {g g₁ : GatewayContext}
    {eps : List Endpoint} {s s₁ : τ} {epA epB : Endpoint}
    (h : hi.selectTwoEndpoints g eps s = (some epA, some epB, g₁, s₁)) :
    epA ∈ eps ∧ epB ∈ eps ∧ epA.id ≠ epB.id := by
  unfold selectTwoEndpoints at h
  cases hb : hi.loadBalancer g with
  | none => simp [hb] at h
  | some lb =>
    obtain ⟨name, hm⟩ := loadBalancer_mem hb
    have hs : lb.Selects := hl _ hm
    simp only [hb] at h
    rcases hf : lb g eps s with ⟨_ | ep, fatal, s₂⟩
    · simp [hf] at h
    · have hp := hs g eps s ep (by rw [hf])
      simp only [hf] at h
      split_ifs at h with hr
      · simp at h
      · have hc := hs (g.setFatal fatal) (eps.filter fun e => e.id ≠ ep.id) s₂ epB
        simp only [Prod.mk.injEq, some.injEq] at h
        obtain ⟨rfl, he, -, -⟩ := h
        have hm := hc he
        simp only [ne_eq, decide_not, List.mem_filter, Bool.not_eq_eq_eq_not, Bool.not_true,
          decide_eq_false_iff_not] at hm
        exact ⟨hp, hm.1, Ne.symm hm.2⟩

/-- Every race that `Invoke` starts is between a pair of registered endpoints
with distinct ids. -/
theorem HedgingInvoker.start_pair (hb : ∀ entry ∈ hi.loadBalancers, entry.2.Selects)
    (ho : ∀ r ∈ hi.routerChain, r.Filters)
    (hds : ∀ ctx model s endpoints, (hi.discovery ctx model s).1 = .ok endpoints →
      ∀ ep ∈ endpoints, ep.id ≠ "")
    {g g₁ : GatewayContext} {s s₁ : τ} {epA epB : Endpoint}
    (h : hi.start g s = .race epA epB g₁ s₁) :
    ∃ pair : EndpointPair, pair.endpoint .a = epA ∧ pair.endpoint .b = epB := by
  unfold start at h
  rcases hl : hi.discovery g.ctx g.model s with ⟨err | endpoints, s₂⟩
  · simp [hl] at h
  · have hd := hds g.ctx g.model s endpoints (by rw [hl])
    simp only [hl] at h
    rcases hr : routeAll hi.routerChain g endpoints s₂ with ⟨routed, g₃, s₃⟩
    have ht : ∀ ep ∈ routed, ep ∈ endpoints := by
      intro ep he
      apply mem_of_mem_routeAll ho
      rw [hr]
      exact he
    simp only [hr] at h
    split_ifs at h with hln
    rcases hs : hi.selectTwoEndpoints g₃ routed s₃ with ⟨_ | epA', _ | epB', g₄, s₄⟩
    all_goals simp only [hs, reduceCtorEq, Start.race.injEq] at h
    obtain ⟨rfl, rfl, -, -⟩ := h
    obtain ⟨hA, hB, hn⟩ := selectTwoEndpoints_distinct hb hs
    refine ⟨⟨endpointOf epA' epB', ?_, hn⟩, rfl, rfl⟩
    rintro (_ | _)
    · exact hd epA' (ht epA' hA)
    · exact hd epB' (ht epB' hB)

/-- Two endpoints, and a balancer that takes the first. -/
def twoEndpoints : HedgingInvoker Unit where
  discovery _ _ s := (.ok [{ id := "a", model := "m" }, { id := "b", model := "m" }], s)
  routerChain := []
  loadBalancers := [("round_robin", fun _ endpoints s => (endpoints.head?, none, s))]

theorem HedgingInvoker.start_pair_two : ∃ pair : EndpointPair,
    pair.endpoint .a = { id := "a", model := "m" } ∧
      pair.endpoint .b = { id := "b", model := "m" } := by
  have h : twoEndpoints.start { request := {} } () = .race _ _ _ _ := rfl
  refine start_pair ?_ (by simp [twoEndpoints]) ?_ h
  · rintro _ (_ | ⟨_, ⟨⟩⟩) _ _ _ _ he
    exact List.mem_of_mem_head? he
  · rintro _ _ _ _ ⟨⟩
    decide

end Choice

/-! ## The race -/

namespace Session

def race (st : Session) : Race SubCall Bytes where
  owner := st.winnerGctx
  output := st.output
  written s := (st.sub s).written
  inFlight s := (st.sub s).phase.chunk
  stopped := st.childDone

variable (st : Session) (s : SubCall)

@[simp] lemma setSub_self (x : Sub) : (st.setSub s x).sub s = x := by
  simp [setSub]

@[simp] theorem setSub_pair (x : Sub) : (st.setSub s x).pair = st.pair := rfl

@[simp] theorem setSub_winnerGctx (x : Sub) : (st.setSub s x).winnerGctx = st.winnerGctx := rfl

lemma setSub_of_ne {s t : SubCall} (h : t ≠ s) (x : Sub) : (st.setSub s x).sub t = st.sub t := by
  simp [setSub, h]

lemma race_setSub (x : Sub) : (st.setSub s x).race = { st.race with
        written := update st.race.written s x.written
        inFlight := update st.race.inFlight s x.phase.chunk
        stopped := update st.race.stopped s (st.sessionErr.isSome || x.cancelled) } := by
  have hc : ∀ {β : Type} (f : Sub → β),
      (fun t => f ((st.setSub s x).sub t)) = update (fun t => f (st.sub t)) s (f x) := by
    intro β f
    ext t
    by_cases ht : t = s
    · subst t
      simp
    · simp [setSub_of_ne st ht, ht]
  have hd : (st.setSub s x).childDone = update st.childDone s
      (st.sessionErr.isSome || x.cancelled) := hc fun y => st.sessionErr.isSome || y.cancelled
  simp only [race, Race.mk.injEq]
  exact ⟨rfl, rfl, hc Sub.written, hc fun y => y.phase.chunk, hd⟩

lemma race_setSub_same {s : SubCall} {x : Sub} (hw : x.written = (st.sub s).written)
    (hc : x.phase.chunk = (st.sub s).phase.chunk)
    (hn : x.cancelled = (st.sub s).cancelled) : (st.setSub s x).race = st.race := by
  rw [race_setSub, hw, hc, hn]
  simp [race, childDone, Race.mk.injEq]

lemma update_stopped : update st.race.stopped s (st.sessionErr.isSome || (st.sub s).cancelled) =
      st.race.stopped :=
  update_eq_self s st.childDone

lemma update_written : update st.race.written s (st.sub s).written = st.race.written :=
  update_eq_self s st.race.written

lemma move_cancel {s : SubCall} {x : Sub} (hw : x.written = (st.sub s).written)
    (hc : x.phase.chunk = (st.sub s).phase.chunk) (hn : x.cancelled = true) :
    Move st.race (st.setSub s x).race := by
  have hf : update st.race.inFlight s (st.sub s).phase.chunk = st.race.inFlight :=
    update_eq_self s st.race.inFlight
  rw [race_setSub, hw, update_written, hc, hf, hn]
  apply stop
  intro t ht
  by_cases hs : t = s
  · subst t
    simp
  · simpa [hs] using ht

end Session

/-! ## Who has won -/

/-- In `Write`, past the claim. -/
def SubPhase.pastClaim : SubPhase → Bool
  | .claimed _ | .emitting _ => true
  | _ => false

/-- Not yet started, or over. -/
def SubPhase.atRest : SubPhase → Bool
  | .idle | .closed => true
  | _ => false

/-- In `Write`, before the winner is signalled. -/
def SubPhase.isClaimed : SubPhase → Bool
  | .claimed _ => true
  | _ => false

lemma SubPhase.pastClaim_of_chunk {p : SubPhase} (h : p.chunk = none) : p.pastClaim = false := by
  cases p <;> simp_all [pastClaim, chunk]

lemma SubPhase.isClaimed_of_chunk {p : SubPhase} (h : p.chunk = none) : p.isClaimed = false := by
  cases p <;> simp_all [isClaimed, chunk]

/-- The session's records of the winner agree, and a writer takes itself for the
winner only if it is. -/
structure Claims (st : Session) : Prop where
  selected : ∀ s, (st.sub s).child.selectedEndpoint = some (st.pair.endpoint s)
  winnerID : st.winnerID = (st.winnerGctx.map fun s => (st.pair.endpoint s).id).getD ""
  isWinner : ∀ s, (st.sub s).isWinner = true → st.winnerGctx = some s
  pastClaim : ∀ s, (st.sub s).phase.pastClaim = true → (st.sub s).isWinner = true

namespace Claims
variable {st : Session} (h : Claims st)
include h

lemma winnerID_eq_empty_iff : st.winnerID = "" ↔ st.winnerGctx = none := by
  rw [h.winnerID]
  cases hw : st.winnerGctx with
  | none => simp
  | some s => simp [st.pair.registered s]

lemma lost_iff (s : SubCall) : st.lost s = true ↔ st.winnerGctx = some s.other := by
  simp only [lost, h.selected s, h.winnerID, map_some, getD_some, ne_eq,
    decide_not, Bool.and_eq_true, Bool.not_eq_eq_eq_not, Bool.not_true, decide_eq_false_iff_not]
  cases hw : st.winnerGctx with
  | none => simp
  | some t =>
    have he := st.pair.registered t
    have hn := @EndpointPair.id_injective st.pair t s
    cases s <;> cases t <;> simp_all [SubCall.other]

lemma setSub {s : SubCall} {x : Sub}
    (hs : x.child.selectedEndpoint = (st.sub s).child.selectedEndpoint)
    (hw : x.isWinner = true → st.winnerGctx = some s)
    (hp : x.phase.pastClaim = true → x.isWinner = true) : Claims (st.setSub s x) where
  selected t := by
    by_cases ht : t = s
    · subst t
      simpa [hs] using h.selected s
    · simpa [st.setSub_of_ne ht] using h.selected t
  winnerID := h.winnerID
  isWinner t := by
    by_cases ht : t = s
    · subst t
      simpa using hw
    · simpa [st.setSub_of_ne ht] using h.isWinner t
  pastClaim t := by
    by_cases ht : t = s
    · subst t
      simpa using hp
    · simpa [st.setSub_of_ne ht] using h.pastClaim t

lemma setWinner {s : SubCall} (hf : st.winnerGctx = none ∨ st.winnerGctx = some s) :
    Claims (st.setWinner s) where
  selected := h.selected
  winnerID := by simp [Session.setWinner, h.selected s]
  isWinner t ht := by
    have hw := h.isWinner t ht
    rcases hf with hf | hf
    · simp [hf] at hw
    · rw [hf] at hw
      exact hw
  pastClaim := h.pastClaim

end Claims

/-- A sub-call that has won is about to signal it or has done so, and nothing reaches the
client before. -/
structure Signalled (st : Session) : Prop where
  winner : ∀ s, (st.sub s).isWinner = true →
    (st.sub s).phase.isClaimed = true ∨ st.winnerChan ≠ []
  output : st.output ≠ [] → st.winnerChan ≠ []

/-- What a step of a sub-call does to the session: it leaves the invoking thread
and a recorded winner alone, it does not touch a sub-call at rest, it takes no signal
back, and it is a move of the race. -/
structure SubStep (st st' : Session) : Prop where
  claims : Claims st'
  move : Move st.race st'.race
  main : st'.main = st.main
  gctx : st'.gctx = st.gctx
  pair : st'.pair = st.pair
  winner : ∀ w, st.winnerGctx = some w → st'.winnerGctx = some w
  atRest : ∀ s, (st.sub s).phase.atRest = true → st'.sub s = st.sub s
  signalled : Signalled st → Signalled st'

lemma move_refl (r : Race SubCall Bytes) : Move r r := stop r r.stopped fun _ h => h

variable {g : GatewayContext} {pair : EndpointPair} {st st' : Session}

lemma Signalled.sent (h : Signalled st) {s : SubCall} (hc : (st.sub s).phase.isClaimed = false)
    (hw : (st.sub s).isWinner = true) : st.winnerChan ≠ [] :=
  (h.winner s hw).resolve_left (by simp [hc])

lemma SubStep.refl (h : Claims st) : SubStep st st :=
  ⟨h, move_refl st.race, rfl, rfl, rfl, fun _ hw => hw, fun _ _ => rfl, id⟩

/-- The step replaces a sub-call that is under way by one with the same endpoint,
and no winner is recorded. -/
lemma SubStep.setSub {s : SubCall} {x : Sub} (h : Claims st) (hs' : st' = { st.setSub s x with
      lastFailure := st'.lastFailure
      terminalFailure := st'.terminalFailure
      winnerChan := st'.winnerChan
      failuresChan := st'.failuresChan
      output := st'.output }) (hb : (st.sub s).phase.atRest = false)
    (hl : x.child.selectedEndpoint = (st.sub s).child.selectedEndpoint)
    (hn : x.isWinner = true → st.winnerGctx = some s)
    (hp : x.phase.pastClaim = true → x.isWinner = true) (hm : Move st.race st'.race)
    (hg : Signalled st → (x.isWinner = true → x.phase.isClaimed = true ∨ st'.winnerChan ≠ []) ∧
      (st'.winnerChan = st.winnerChan ∧ st'.output = st.output ∨ st'.winnerChan ≠ [])) :
    SubStep st st' := by
  have hc := h.setSub hl hn hp
  have hu : st'.sub = (st.setSub s x).sub := by rw [hs']
  refine ⟨?_, hm, by rw [hs']; rfl, by rw [hs']; rfl, by rw [hs']; rfl, ?_, ?_, ?_⟩
  · rw [hs']
    exact { hc with }
  · intro w hw
    rw [hs']
    exact hw
  · intro t ht
    have hts : t ≠ s := by
      rintro rfl
      simp [hb] at ht
    rw [hu, st.setSub_of_ne hts]
  · intro hsig
    obtain ⟨hx, hch⟩ := hg hsig
    refine ⟨fun t ht => ?_, fun ho => ?_⟩
    · rw [hu] at ht ⊢
      by_cases hts : t = s
      · subst t
        rw [setSub_self] at ht ⊢
        exact hx ht
      · rw [st.setSub_of_ne hts] at ht ⊢
        rcases hch with ⟨hch, -⟩ | hch
        · rw [hch]
          exact hsig.winner t ht
        · exact .inr hch
    · rcases hch with ⟨hch, he⟩ | hch
      · rw [hch]
        exact hsig.output (he ▸ ho)
      · exact hch

/-- Outside `Write`, or without a change of the phase, nothing of the race changes. -/
lemma SubStep.quiet {s : SubCall} {x : Sub} (h : Claims st) (hs' : st' = { st.setSub s x with
      lastFailure := st'.lastFailure
      terminalFailure := st'.terminalFailure
      failuresChan := st'.failuresChan }) (hb : (st.sub s).phase.atRest = false)
    (hl : x.child.selectedEndpoint = (st.sub s).child.selectedEndpoint)
    (hw : x.isWinner = (st.sub s).isWinner) (hwr : x.written = (st.sub s).written)
    (hn : x.cancelled = (st.sub s).cancelled)
    (hp : x.phase = (st.sub s).phase ∨ x.phase.chunk = none ∧ (st.sub s).phase.chunk = none) :
    SubStep st st' := by
  have hc : x.phase.chunk = (st.sub s).phase.chunk := by
    rcases hp with hp | ⟨hx, hp⟩
    · rw [hp]
    · rw [hx, hp]
  have hr : st'.race = st.race := by
    rw [hs']
    exact st.race_setSub_same hwr hc hn
  have hch : st'.winnerChan = st.winnerChan := by rw [hs']; rfl
  refine SubStep.setSub h (by rw [hs']) hb hl (hw ▸ h.isWinner s) ?_ ?_
    fun hsig => ⟨fun hx => ?_, .inl ⟨hch, by rw [hs']; rfl⟩⟩
  · rcases hp with hp | ⟨hx, -⟩
    · rw [hp, hw]
      exact h.pastClaim s
    · simp [pastClaim_of_chunk hx]
  · rw [hr]
    exact move_refl st.race
  · rw [hw] at hx
    rw [hch]
    rcases hp with hp | ⟨-, hp⟩
    · rw [hp]
      exact hsig.winner s hx
    · exact .inr (hsig.sent (isClaimed_of_chunk hp) hx)

lemma SubStep.afterClaim {s : SubCall} (hf : st.winnerGctx = none ∨ st.winnerGctx = some s)
    (hs : SubStep (st.setWinner s) st') (hr : st'.race = (st.setWinner s).race) :
    SubStep st st' where
  claims := hs.claims
  move := hr ▸ claim st.race s hf
  main := hs.main
  gctx := hs.gctx
  pair := hs.pair
  winner w hw := by
    apply hs.winner
    rcases hf with hf | hf <;> simp_all [setWinner]
  atRest := hs.atRest
  signalled h := hs.signalled ⟨h.winner, h.output⟩

namespace Session

lemma trySend_ne_nil (chan : List String) (id : String) : trySend chan id ≠ [] := by
  unfold trySend
  split_ifs with hf
  · simp
  · rintro rfl
    exact hf (by decide)

variable {st : Session} (h : Claims st) (s : SubCall)
include h

lemma acquire_subStep (err : Option GoError) (now : Nanos) : SubStep st (st.acquire s err now) := by
  cases hp : (st.sub s).phase with
  | acquiring =>
    simp only [acquire, hp]
    refine SubStep.quiet h rfl (by simp [hp, atRest]) rfl rfl rfl rfl (.inr ?_)
    cases err <;> simp [hp, chunk]
  | _ =>
    simp only [acquire, hp]
    exact SubStep.refl h

lemma work_subStep (g : GatewayContext) : SubStep st (st.work s g) := by
  unfold work
  by_cases hp : (st.sub s).phase.inProvider = true
  · simp only [hp, if_true]
    refine SubStep.quiet h rfl ?_ rfl rfl rfl rfl (.inl rfl)
    cases hh : (st.sub s).phase <;> simp_all [inProvider, atRest]
  · simp only [hp, if_false, Bool.false_eq_true]
    exact SubStep.refl h

lemma providerReturns_subStep (err : Option GoError) (now : Nanos) :
    SubStep st (st.providerReturns s err now) := by
  cases hp : (st.sub s).phase with
  | running =>
    simp only [providerReturns, hp]
    exact SubStep.quiet h rfl (by simp [hp, atRest]) rfl rfl rfl rfl (.inr (by simp [hp, chunk]))
  | _ =>
    simp only [providerReturns, hp]
    exact SubStep.refl h

lemma write_subStep (p : Bytes) : SubStep st (st.write s p) := by
  cases hp : (st.sub s).phase with
  | running =>
    have hb : (st.sub s).phase.atRest = false := by simp [hp, atRest]
    have hd : st.race.inFlight s = none := by simp [race, hp, chunk]
    have hg : Signalled st → (st.sub s).isWinner = true → st.winnerChan ≠ [] :=
      fun hs => hs.sent (by simp [hp, isClaimed])
    simp only [write, hp]
    by_cases hn : st.childDone s = true
    · simp only [hn, if_true]
      refine SubStep.setSub h rfl hb rfl (h.isWinner s) (by simp [pastClaim]) ?_
        fun hs => ⟨fun hw => .inr (hg hs hw), .inl ⟨rfl, rfl⟩⟩
      have hf : update st.race.inFlight s none = st.race.inFlight := by
        rw [← hd, update_eq_self]
      rw [race_setSub, update_stopped]
      simp only [chunk, hf]
      exact refuse st.race s p hn hd
    · have hr : st.race.stopped s = false := by simpa [race] using hn
      split_ifs with hw
      · refine SubStep.setSub h rfl hb rfl (h.isWinner s) (fun _ => hw) ?_
          fun hs => ⟨fun hw => .inr (hg hs hw), .inl ⟨rfl, rfl⟩⟩
        rw [race_setSub, update_stopped]
        exact accept st.race s p hr hd
      · refine SubStep.setSub h rfl hb rfl (h.isWinner s) (by simp [pastClaim]) ?_
          fun hs => ⟨fun hw => .inr (hg hs hw), .inl ⟨rfl, rfl⟩⟩
        rw [race_setSub, update_stopped]
        exact accept st.race s p hr hd
  | _ =>
    simp only [write, hp]
    exact SubStep.refl h

lemma writeNext_subStep : SubStep st (st.writeNext s) := by
  cases hp : (st.sub s).phase with
  | entered p =>
    have hb : (st.sub s).phase.atRest = false := by simp [hp, atRest]
    have hc : (claimed p).chunk = (st.sub s).phase.chunk := by
      simp [hp, chunk]
    simp only [writeNext, hp]
    by_cases hl : st.lost s = true
    · simp only [hl, if_true]
      refine SubStep.setSub h rfl hb rfl (h.isWinner s) (by simp [pastClaim]) ?_
        fun hs => ⟨fun hw => .inr (hs.sent (by simp [hp, isClaimed]) hw), .inl ⟨rfl, rfl⟩⟩
      rw [race_setSub, update_stopped, update_written]
      refine drop st.race s s.other ((h.lost_iff s).mp hl) ?_
      cases s <;> simp [SubCall.other]
    · have hf : st.winnerGctx = none ∨ st.winnerGctx = some s := by
        rw [h.lost_iff] at hl
        rcases hw : st.winnerGctx with _ | (_ | _) <;> cases s <;> simp_all [SubCall.other]
      have hr := race_setSub_same (st.setWinner s)
        (x := { st.sub s with isWinner := true, phase := .claimed p }) rfl hc rfl
      simp only [hl, if_false, Bool.false_eq_true]
      refine SubStep.afterClaim hf ?_ hr
      exact SubStep.setSub (h.setWinner hf) rfl hb rfl (fun _ => rfl) (fun _ => rfl)
        (hr ▸ move_refl _) fun _ => ⟨fun _ => .inl rfl, .inl ⟨rfl, rfl⟩⟩
  | claimed p =>
    have hn : (st.sub s).isWinner = true := h.pastClaim s (by simp [hp, pastClaim])
    have hg := trySend_ne_nil st.winnerChan st.winnerID
    have hr := st.race_setSub_same (s := s)
      (x := { st.sub s with headerWritten := true, phase := .emitting p }) rfl
      (by simp [hp, chunk]) rfl
    simp only [writeNext, hp]
    exact SubStep.setSub h rfl (by simp [hp, atRest]) rfl (h.isWinner s) (fun _ => hn)
      (hr ▸ move_refl st.race) fun _ => ⟨fun _ => .inr hg, .inr hg⟩
  | emitting p =>
    have hw : (st.sub s).isWinner = true := h.pastClaim s (by simp [hp, pastClaim])
    have hg : Signalled st → st.winnerChan ≠ [] := fun hs => hs.sent (by simp [hp, isClaimed]) hw
    simp only [writeNext, hp]
    refine SubStep.setSub h rfl (by simp [hp, atRest]) rfl (h.isWinner s) (by simp [pastClaim]) ?_
      fun hs => ⟨fun _ => .inr (hg hs), .inr (hg hs)⟩
    change Move st.race { (st.setSub s { st.sub s with phase := .running }).race with
      output := st.output ++ [(s, p)] }
    rw [race_setSub, update_stopped, update_written]
    exact emit st.race s p (h.isWinner s hw) (congrArg chunk hp)
  | _ =>
    simp only [writeNext, hp]
    exact SubStep.refl h

lemma claimWinner_subStep (hp : (st.sub s).phase = .returned none) :
    SubStep st ((st.claimWinner s).setSub s { st.sub s with phase := .closing }) := by
  have hb : (st.sub s).phase.atRest = false := by simp [hp, atRest]
  have hc : closing.chunk = none ∧ (st.sub s).phase.chunk = none := by simp [hp, chunk]
  unfold claimWinner
  split_ifs with hl
  · exact SubStep.quiet h rfl hb rfl rfl rfl rfl (.inr hc)
  · have hf : st.winnerGctx = none ∨ st.winnerGctx = some s :=
      Or.inl (h.winnerID_eq_empty_iff.mp (not_not.mp hl))
    have hg := trySend_ne_nil st.winnerChan (st.setWinner s).winnerID
    have hr := race_setSub_same (st.setWinner s) (x := { st.sub s with phase := .closing }) rfl
      (hc.1.trans hc.2.symm) rfl
    refine SubStep.afterClaim hf ?_ hr
    exact SubStep.setSub (h.setWinner hf) rfl hb rfl (fun _ => rfl) (by simp [pastClaim])
      (hr ▸ move_refl _) fun _ => ⟨fun _ => .inr hg, .inr hg⟩

lemma subNext_subStep : SubStep st (st.subNext s) := by
  cases hp : (st.sub s).phase with
  | returned err =>
    cases err with
    | some err =>
      simp only [subNext, hp]
      exact SubStep.quiet h rfl (by simp [hp, atRest]) rfl rfl rfl rfl (.inr (by simp [hp, chunk]))
    | none =>
      simp only [subNext, hp]
      exact claimWinner_subStep h s hp
  | failing err =>
    simp only [subNext, hp]
    exact SubStep.quiet h rfl (by simp [hp, atRest]) rfl rfl rfl rfl (.inr (by simp [hp, chunk]))
  | cancelling =>
    simp only [subNext, hp]
    refine SubStep.setSub h rfl (by simp [hp, atRest]) rfl (h.isWinner s) (by simp [pastClaim]) ?_
      fun hs => ⟨fun hw => .inr (hs.sent (by simp [hp, isClaimed]) hw), .inl ⟨rfl, rfl⟩⟩
    apply move_cancel <;> simp [hp, chunk]
  | closing =>
    simp only [subNext, hp]
    exact SubStep.quiet h rfl (by simp [hp, atRest]) rfl rfl rfl rfl (.inr (by simp [hp, chunk]))
  | _ =>
    simp only [subNext, hp]
    exact SubStep.refl h

end Session

/-! ## What the invoking thread holds -/

/-- What `Invoke`, called on `g`, knows where it is. -/
def Holds (g : GatewayContext) (st : Session) : Prop :=
  match st.main with
  | .starting | .startFailed => st.gctx = g ∧ (st.sub .b).phase = .idle
  | .won w => st.gctx = g ∧ w = st.winnerGctx ∧ st.winnerGctx ≠ none
  | .awaiting id w => st.gctx = g ∧ w = st.winnerGctx ∧ st.winnerGctx ≠ none ∧ id = st.winnerID
  | .returned .winner err => ∃ w, st.winnerGctx = some w ∧ (st.sub w).phase = .closed ∧
      st.gctx = Session.adoptWinner g (st.sub w).child ∧ err = (st.sub w).child.upstreamError
  | .returned _ _ => True
  | _ => st.gctx = g

lemma Holds.subStep (h : Holds g st) (hl : Claims st) (hs : SubStep st st') : Holds g st' := by
  have hwn : st.winnerGctx ≠ none → st'.winnerGctx = st.winnerGctx := by
    intro hn
    obtain ⟨w, hw⟩ := ne_none_iff_exists'.mp hn
    rw [hw, hs.winner w hw]
  have hd : st.winnerGctx ≠ none → st'.winnerID = st.winnerID := by
    intro hn
    rw [hs.claims.winnerID, hl.winnerID, hwn hn, hs.pair]
  unfold Holds at h ⊢
  rw [hs.main, hs.gctx]
  split at h
  · rw [hs.atRest .b (by simp [h.2, atRest])]
    exact h
  · rw [hs.atRest .b (by simp [h.2, atRest])]
    exact h
  · rw [hwn h.2.2]
    exact h
  · rw [hwn h.2.2.1, hd h.2.2.1]
    exact h
  · obtain ⟨w, hw, hc, hg, he⟩ := h
    have hu := hs.atRest w (by simp [hc, atRest])
    exact ⟨w, hs.winner w hw, by rw [hu]; exact hc, by rw [hu]; exact hg,
      by rw [hu]; exact he⟩
  · trivial
  · exact h

/-- `Invoke` has not left its first `select`, or is about to start the second sub-call. -/
def MainPhase.isFirst : MainPhase → Bool
  | .starting | .startFailed => true
  | _ => false

/-- The first `select` takes the timer, or an early failure that was received does not end
the request. -/
def Hedges (st : Session) (l : Label) : Prop :=
  l = .timer ∧ st.main = .starting ∨
    l = .advance ∧ st.main = .startFailed ∧ st.terminalFailure = none

/-- What a session leaves of the request's context. -/
structure KeepsReport (g g' : GatewayContext) : Prop where
  requestType : g'.requestType = g.requestType
  isStream : g'.isStream = g.isStream
  tags : g'.tags = g.tags

/-- What a step of `Invoke`, called on `g`, does: it is a move of the race, starts the second
sub-call only if it hedges, and takes no signal before it has left its first `select`. -/
structure MainStep (g : GatewayContext) (l : Label) (st st' : Session) : Prop where
  claims : Claims st'
  move : Move st.race st'.race
  pair : st'.pair = st.pair
  holds : Holds g st'
  keeps : KeepsReport st.gctx st'.gctx
  phase_b : ¬Hedges st l → (st'.sub .b).phase = (st.sub .b).phase
  signalled : st'.main.isFirst = true → st.main.isFirst = true ∧ (Signalled st → Signalled st')

namespace Session

lemma finish_sub (st : Session) (outcome : Outcome) (err : Option GoError) (s : SubCall) :
    (st.finish outcome err).sub s = { st.sub s with cancelled := true } := by
  cases s <;> simp [finish, cancel, setSub]

variable {g : GatewayContext} {l : Label} {st : Session} (h : Claims st) (hholds : Holds g st)
include h

lemma finish_mainStep {gctx : GatewayContext} {outcome : Outcome} {err : Option GoError}
    (hk : KeepsReport st.gctx gctx)
    (hg : Holds g ({ st with gctx := gctx }.finish outcome err)) :
    MainStep g l st ({ st with gctx := gctx }.finish outcome err) where
  claims := by
    refine ⟨fun s => ?_, h.winnerID, fun s => ?_, fun s => ?_⟩
    · rw [finish_sub]
      exact h.selected s
    · rw [finish_sub]
      exact h.isWinner s
    · rw [finish_sub]
      exact h.pastClaim s
  move := by
    have hr : ({ st with gctx := gctx }.finish outcome err).race =
        { st.race with stopped := fun _ => true } := by
      simp only [race, Race.mk.injEq, finish_sub, true_and]
      refine ⟨rfl, rfl, ?_⟩
      ext s
      simp [childDone, finish]
    rw [hr]
    exact stop st.race _ fun _ _ => rfl
  pair := rfl
  holds := hg
  keeps := hk
  phase_b _ := by rw [finish_sub]
  signalled hf := by cases hf

lemma goto_mainStep {st' : Session} (hs' : st' = { st with
      main := st'.main
      failuresCount := st'.failuresCount
      winnerChan := st'.winnerChan
      failuresChan := st'.failuresChan })
    (hholds' : Holds g st')
    (hf : st'.main.isFirst = true →
      st.main.isFirst = true ∧ st'.winnerChan = st.winnerChan := by simp [isFirst]) :
    MainStep g l st st' where
  claims := by
    rw [hs']
    exact { h with }
  move := by
    rw [hs']
    exact move_refl st.race
  pair := by rw [hs']
  holds := hholds'
  keeps := by
    rw [hs']
    exact ⟨rfl, rfl, rfl⟩
  phase_b _ := by rw [hs']
  signalled hf' := by
    obtain ⟨hf, hc⟩ := hf hf'
    refine ⟨hf, fun hs => ?_⟩
    rw [hs', hc]
    exact ⟨hs.winner, hs.output⟩

lemma refl_mainStep (hholds : Holds g st) : MainStep g l st st :=
  goto_mainStep h rfl hholds fun hf => ⟨hf, rfl⟩

lemma unlessTerminal_mainStep {next : Session}
    (hn : st.terminalFailure = none → MainStep g l st next) :
    MainStep g l st (st.unlessTerminal next) := by
  unfold unlessTerminal
  split
  next ht => exact hn ht
  next => exact finish_mainStep h ⟨rfl, rfl, rfl⟩ trivial

lemma startB_mainStep (hl : Hedges st l) (hg : st.gctx = g) (hd : (st.sub .b).phase = .idle) :
    MainStep g l st st.startB where
  claims := by
    have hc := h.setSub (s := .b) (x := { st.sub .b with phase := .acquiring }) rfl
      (h.isWinner .b) (by simp [pastClaim])
    exact { hc with }
  move := by
    have hs := st.race_setSub_same (s := .b) (x := { st.sub .b with phase := .acquiring }) rfl
      (by simp [hd, chunk]) rfl
    exact hs ▸ move_refl st.race
  pair := rfl
  holds := hg
  keeps := ⟨rfl, rfl, rfl⟩
  phase_b hn := absurd hl hn
  signalled hf := by cases hf

lemma cancelLoser_mainStep {w : Option SubCall} (hm : st.main = .won w)
    (hholds : Holds g st) (lo : SubCall) :
    MainStep g l st { st.cancel lo with main := .awaiting st.winnerID w } where
  claims := by
    have hc := h.setSub (s := lo) (x := { st.sub lo with cancelled := true }) rfl
      (h.isWinner lo) (h.pastClaim lo)
    exact { hc with }
  move := st.move_cancel (s := lo) (x := { st.sub lo with cancelled := true }) rfl rfl rfl
  pair := rfl
  holds := by
    simp only [Holds, hm] at hholds
    exact ⟨hholds.1, hholds.2.1, hholds.2.2, rfl⟩
  keeps := ⟨rfl, rfl, rfl⟩
  phase_b _ := by cases lo <;> simp [cancel, setSub]
  signalled hf := by cases hf
include hholds

lemma timer_mainStep : MainStep g .timer st st.timer := by
  unfold timer
  split
  next hm =>
    simp only [Holds, hm] at hholds
    exact startB_mainStep h (.inl ⟨rfl, hm⟩) hholds.1 hholds.2
  next => exact refl_mainStep h hholds

lemma receiveWinner_mainStep : MainStep g l st st.receiveWinner := by
  unfold receiveWinner
  split
  next hm _ =>
    simp only [Holds, hm] at hholds
    exact goto_mainStep h rfl hholds.1
  next hm _ =>
    simp only [Holds, hm] at hholds
    exact goto_mainStep h rfl hholds
  next => exact refl_mainStep h hholds

lemma receiveFailure_mainStep : MainStep g l st st.receiveFailure := by
  unfold receiveFailure
  split
  next hm _ =>
    simp only [Holds, hm] at hholds
    exact goto_mainStep h rfl hholds (by simp [isFirst, hm])
  next hm _ =>
    simp only [Holds, hm] at hholds
    exact goto_mainStep h rfl hholds
  next => exact refl_mainStep h hholds

lemma receiveDone_mainStep : MainStep g l st st.receiveDone := by
  unfold receiveDone
  split
  next => exact finish_mainStep h ⟨rfl, rfl, rfl⟩ trivial
  next => exact finish_mainStep h ⟨rfl, rfl, rfl⟩ trivial
  next => exact finish_mainStep h ⟨rfl, rfl, rfl⟩ trivial
  next => exact refl_mainStep h hholds

lemma receiveCompleted_mainStep : MainStep g l st st.receiveCompleted := by
  unfold receiveCompleted
  split
  next winnerID w hmn =>
    split_ifs with hm
    · simp only [Holds, hmn] at hholds
      obtain ⟨hg, hw, -, hd⟩ := hholds
      have hc : (st.sub w).phase = .closed := by
        have hwn : winnerID = (st.pair.endpoint w).id := by
          rw [hd, h.winnerID, ← hw]
          rfl
        have hn := @EndpointPair.id_injective st.pair
        simp only [completed, hwn, Bool.or_eq_true, Bool.and_eq_true, decide_eq_true_eq]
          at hm
        rcases hm with ⟨hd, hc⟩ | ⟨hd, hc⟩
        · rwa [← hn hd]
        · rwa [← hn hd]
      refine finish_mainStep h ⟨rfl, rfl, rfl⟩ ⟨w, hw.symm, ?_, ?_, ?_⟩
      · rw [finish_sub]
        exact hc
      · rw [finish_sub, ← hg]
        rfl
      · rw [finish_sub]
    · exact refl_mainStep h hholds
  next => exact refl_mainStep h hholds

lemma advance_mainStep : MainStep g .advance st st.advance := by
  unfold advance
  split
  next hm =>
    simp only [Holds, hm] at hholds
    refine unlessTerminal_mainStep h fun ht => ?_
    exact startB_mainStep h (.inr ⟨rfl, hm, ht⟩) hholds.1 hholds.2
  next hm =>
    simp only [Holds, hm] at hholds
    exact unlessTerminal_mainStep h fun _ => goto_mainStep h rfl hholds
  next hm =>
    simp only [Holds, hm] at hholds
    split_ifs with hc
    · refine goto_mainStep h rfl ⟨hholds, rfl, ?_⟩
      rw [ne_eq, ← h.winnerID_eq_empty_iff]
      exact hc
    · exact goto_mainStep h rfl hholds
  next err hm =>
    simp only [Holds, hm] at hholds
    exact unlessTerminal_mainStep h fun _ => goto_mainStep h rfl hholds
  next err hm =>
    simp only [Holds, hm] at hholds
    split_ifs with hc ho
    · exact goto_mainStep h rfl hholds
    · exact goto_mainStep h rfl hholds
    · exact goto_mainStep h rfl hholds
  next err hm =>
    refine finish_mainStep h ?_ trivial
    split <;> exact ⟨rfl, rfl, rfl⟩
  next w hm => exact cancelLoser_mainStep h hm hholds _
  next => exact refl_mainStep h hholds

lemma requestDone_mainStep (err : GoError) : MainStep g l st (step st (.requestDone err)) where
  claims := { h with }
  move := by
    apply stop st.race
    intro s hs
    simp only [race, childDone, Bool.or_eq_true] at hs ⊢
    rcases hs with hs | hs
    · left
      obtain ⟨e, he⟩ := isSome_iff_exists.mp hs
      simp [step, he]
    · exact Or.inr hs
  pair := rfl
  holds := hholds
  keeps := ⟨rfl, rfl, rfl⟩
  phase_b _ := rfl
  signalled hf := ⟨hf, fun hs => ⟨hs.winner, hs.output⟩⟩

end Session

/-- Every step is one of `Invoke` or one of a sub-call. -/
lemma step_cases (hc : Claims st) (hh : Holds g st) (l : Label) :
    MainStep g l st (step st l) ∨ SubStep st (step st l) := by
  cases l with
  | timer => exact .inl (timer_mainStep hc hh)
  | receiveWinner => exact .inl (receiveWinner_mainStep hc hh)
  | receiveFailure => exact .inl (receiveFailure_mainStep hc hh)
  | receiveDone => exact .inl (receiveDone_mainStep hc hh)
  | receiveCompleted => exact .inl (receiveCompleted_mainStep hc hh)
  | advance => exact .inl (advance_mainStep hc hh)
  | requestDone err => exact .inl (requestDone_mainStep hc hh err)
  | acquire s err now => exact .inr (acquire_subStep hc s err now)
  | work s g => exact .inr (work_subStep hc s g)
  | write s p => exact .inr (write_subStep hc s p)
  | writeNext s => exact .inr (writeNext_subStep hc s)
  | providerReturns s err now => exact .inr (providerReturns_subStep hc s err now)
  | subNext s => exact .inr (subNext_subStep hc s)

/-! ## Runs -/

/-- The invariant of a session on the request `g` between two endpoints. -/
structure Valid (g : GatewayContext) (pair : EndpointPair) (st : Session) : Prop where
  claims : Claims st
  holds : Holds g st
  sound : st.race.Sound
  pair_eq : st.pair = pair

lemma step_valid (st : Session) (l : Label) (h : Valid g pair st) : Valid g pair (step st l) := by
  rcases step_cases h.claims h.holds l with hs | hs
  · exact ⟨hs.claims, hs.holds, hs.move.sound h.sound, hs.pair.trans h.pair_eq⟩
  · exact ⟨hs.claims, h.holds.subStep h.claims hs, hs.move.sound h.sound, hs.pair.trans h.pair_eq⟩

lemma newSession_valid (g : GatewayContext) (pair : EndpointPair) :
    Valid g pair (newSession g pair) where
  claims := by
    refine ⟨?_, rfl, ?_, ?_⟩
    · rintro (_ | _) <;> rfl
    · rintro (_ | _) <;> simp [newSession]
    · rintro (_ | _) <;> simp [newSession, pastClaim]
  holds := ⟨rfl, rfl⟩
  sound := by
    apply Race.Sound.of_empty rfl
    · rintro (_ | _) <;> rfl
    · rintro (_ | _) <;> rfl
  pair_eq := rfl

/-- Two endpoints to run on. -/
def primaryAndBackup : EndpointPair where
  endpoint := endpointOf { id := "primary" } { id := "backup" }
  registered := by rintro (_ | _) <;> decide
  distinct := by decide

/-- The delayed call writes first and completes; the first call's bytes are
dropped. -/
def backupWins : List Label :=
  [.acquire .a none 0, .timer, .acquire .b none 1, .write .b [1], .write .a [7], .writeNext .b,
    .writeNext .a, .writeNext .b, .advance, .advance, .advance, .writeNext .b, .write .a [8],
    .write .b [2], .writeNext .b, .providerReturns .b none 2, .subNext .b, .subNext .b,
    .receiveCompleted]

end TokenliveGateway.Hedging
