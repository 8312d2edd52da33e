import TokenliveGateway.ClientDisconnects

/-!
# Where the frames of a stream are forwarded

`handleOpenAIStream` sends what ends at a block end and keeps the rest. After each read it
scans the rest again, but only from three bytes before the new ones. What was sent is
nevertheless always all that a scan of the whole text finds complete.
-/
namespace TokenliveGateway
open EventStreams ReadLoops List SSEParser

/-! ## Block ends in a longer text -/

lemma blockEnd_append {data : Bytes} (h : blockEnd data ≠ 0) (more : Bytes) :
    blockEnd (data ++ more) = blockEnd data ∧ blockEnd data ≤ data.length := by
  fun_cases blockEnd data <;> simp_all [blockEnd]

/-- A block end that is seen only with more text begins in the last three bytes, and no
other ends behind its start. -/
lemma late_blockEnd {b : UInt8} {rest more : Bytes} (h : blockEnd (b :: rest) = 0)
    (hl : blockEnd (b :: rest ++ more) ≠ 0) :
    rest.length < 3 ∧ completeSSEPrefixLen rest 0 = 0 := by
  rcases rest with _ | ⟨c, _ | ⟨d, rest⟩⟩
  · decide
  · exact ⟨by simp, by simp [completeSSEPrefixLen, scanBlocks, blockEnd]⟩
  · generalize ha : b :: c :: d :: rest ++ more = all at hl
    fun_cases blockEnd all <;> simp_all [blockEnd]
    obtain ⟨rfl, rfl, rfl, hr⟩ := ha
    rcases rest with _ | ⟨e, rest⟩
    · decide
    · obtain ⟨rfl, -⟩ := cons.inj hr
      simp at h

variable {b : UInt8} {data rest more : Bytes}

lemma scanBlocks_of_none (h : blockEnd (b :: rest) = 0) (i completeLen : ℕ) :
    scanBlocks (b :: rest) i 0 completeLen = scanBlocks rest (i + 1) 0 completeLen := by
  rw [scanBlocks, h]

lemma scanBlocks_of_end {n : ℕ} (h : blockEnd (b :: rest) = n + 1) (i cl : ℕ) :
    scanBlocks (b :: rest) i 0 cl = scanBlocks rest (i + 1) n (i + n + 1) := by
  rw [scanBlocks, h]

/-- A scan from some place on finds what a scan of the text from there finds. -/
lemma scanBlocks_eq (data : Bytes) (i skip cl : ℕ) : scanBlocks data i skip cl =
      if completeSSEPrefixLen (data.drop skip) 0 = 0 then cl
      else i + skip + completeSSEPrefixLen (data.drop skip) 0 := by
  induction data generalizing i skip cl with
  | nil => simp [scanBlocks, completeSSEPrefixLen]
  | cons b rest ih =>
    cases skip with
    | succ skip =>
      rw [scanBlocks, ih, drop_succ_cons]
      split_ifs <;> omega
    | zero =>
      rw [drop_zero, completeSSEPrefixLen, drop_zero]
      cases he : blockEnd (b :: rest) with
      | zero =>
        simp only [scanBlocks_of_none he, ih]
        split_ifs <;> omega
      | succ n =>
        simp only [scanBlocks_of_end he, ih]
        by_cases hr : completeSSEPrefixLen (rest.drop n) 0 = 0 <;> simp [hr] <;> omega

lemma completeSSEPrefixLen_start (data : Bytes) (st : ℕ) :
    completeSSEPrefixLen data st = if completeSSEPrefixLen (data.drop st) 0 = 0 then 0
      else st + completeSSEPrefixLen (data.drop st) 0 :=
  scanBlocks_eq (data.drop st) st 0 0

lemma completeSSEPrefixLen_of_none (h : blockEnd (b :: rest) = 0) :
    completeSSEPrefixLen (b :: rest) 0 =
      if completeSSEPrefixLen rest 0 = 0 then 0 else completeSSEPrefixLen rest 0 + 1 := by
  rw [completeSSEPrefixLen, drop_zero, scanBlocks_of_none h, scanBlocks_eq, drop_zero]
  split_ifs <;> omega

lemma completeSSEPrefixLen_of_end (h : blockEnd data ≠ 0) : completeSSEPrefixLen data 0 =
      blockEnd data + completeSSEPrefixLen (data.drop (blockEnd data)) 0 := by
  cases data with
  | nil => exact absurd rfl h
  | cons b rest =>
    obtain ⟨n, he⟩ := Nat.exists_eq_succ_of_ne_zero h
    rw [completeSSEPrefixLen, drop_zero, scanBlocks_of_end he, scanBlocks_eq, he, drop_succ_cons]
    split_ifs <;> omega

/-- What is complete stays complete, and the scan goes on behind it. -/
lemma completeSSEPrefixLen_append (data more : Bytes) : completeSSEPrefixLen data 0 ≤ data.length ∧
      completeSSEPrefixLen (data ++ more) 0 = completeSSEPrefixLen data 0 +
        completeSSEPrefixLen (data.drop (completeSSEPrefixLen data 0) ++ more) 0 := by
  induction hlen : data.length using Nat.strong_induction_on generalizing data with
  | _ n ih =>
    cases data with
    | nil => simp [completeSSEPrefixLen, scanBlocks]
    | cons b rest =>
      by_cases he : blockEnd (b :: rest) = 0
      · by_cases hr : completeSSEPrefixLen rest 0 = 0
        · rw [completeSSEPrefixLen_of_none he, if_pos hr, drop_zero, Nat.zero_add]
          exact ⟨Nat.zero_le _, rfl⟩
        · have hs : blockEnd (b :: (rest ++ more)) = 0 :=
            by_contra fun hl => hr (late_blockEnd he hl).2
          rw [length_cons] at hlen
          have hm := ih rest.length (by omega) rest rfl
          rw [cons_append, completeSSEPrefixLen_of_none hs,
            completeSSEPrefixLen_of_none he, if_neg hr, if_neg (by omega), drop_succ_cons]
          omega
      · obtain ⟨hsm, hle⟩ := blockEnd_append he more
        have hm := ih _ (by rw [← hlen, length_drop]; omega)
          ((b :: rest).drop (blockEnd (b :: rest))) rfl
        rw [length_drop, hlen, drop_drop] at hm
        rw [completeSSEPrefixLen_of_end (hsm.trans_ne he), hsm,
          drop_append_of_le_length hle, completeSSEPrefixLen_of_end he]
        omega

/-- Where nothing is complete, the last three bytes are enough to scan again. -/
lemma completeSSEPrefixLen_rescan (h : completeSSEPrefixLen data 0 = 0) (more : Bytes) :
    completeSSEPrefixLen (data ++ more) (data.length - 3) =
      completeSSEPrefixLen (data ++ more) 0 := by
  induction data with
  | nil => rfl
  | cons b rest ih =>
    by_cases hl : rest.length < 3
    · rw [length_cons, Nat.sub_eq_zero_of_le (by omega)]
    · have he : blockEnd (b :: rest) = 0 := by
        by_contra he
        rw [completeSSEPrefixLen_of_end he] at h
        omega
      have hs : blockEnd (b :: (rest ++ more)) = 0 := by_contra fun ht => hl (late_blockEnd he ht).1
      rw [completeSSEPrefixLen_of_none he] at h
      have hr := ih (by by_contra hr; rw [if_neg hr] at h; omega)
      rw [completeSSEPrefixLen_start] at hr
      rw [completeSSEPrefixLen_start, cons_append, completeSSEPrefixLen_of_none hs, ← hr,
        length_cons, Nat.sub_add_comm (by omega), drop_succ_cons]
      split_ifs <;> omega

/-! ## Forwarding -/

/-- No event of the stream is an error, it does not begin with an error in JSON, and no
frame is over the limit. -/
structure Forwardable (d : Decoders) (stream : Bytes) : Prop where
  events : ∀ ev ∈ eventsOf (chatStreamUsage d) stream, openAIStreamEventError d ev.data = none
  notJSON : ∀ front, front <+: stream → openAIJSONStreamError d front = none
  frames : ∀ front, front <+: stream →
    front.length - completeSSEPrefixLen front 0 ≤ maxOpenAISSEFrameBytes

abbrev completeFrames (received : Bytes) : Bytes :=
  received.take (completeSSEPrefixLen received 0)

/-- The error that is found in frames before any of them is sent: the first error event, else
an error in JSON. -/
def openingError (d : Decoders) (rawFrames : Bytes) : Option GoError :=
  ((eventsOf (chatStreamUsage d) rawFrames).findSome?
      fun ev => openAIStreamEventError d ev.data) <|>
    openAIJSONStreamError d rawFrames

/-- No frame of the stream is over the limit. -/
def FramesWithinLimit (stream : Bytes) : Prop :=
  ∀ front, front <+: stream →
    front.length - completeSSEPrefixLen front 0 ≤ maxOpenAISSEFrameBytes

/-- The complete frames of what was received are sent, and the rest waits. -/
structure FrameAligned (w : Wire) (received : Bytes) (s : NativeState) : Prop where
  left : s.wire.client.left = none
  sent : rawText s.wire.client.frames =
    rawText w.client.frames ++ received.take (completeSSEPrefixLen received 0)
  parser : s.parser = SSEParser.after (received.take (completeSSEPrefixLen received 0))
  pending : s.pending = received.drop (completeSSEPrefixLen received 0)
  opened : s.headersSent = decide (completeSSEPrefixLen received 0 ≠ 0)

/-- The frames are read along, and written to the client as `client`. -/
structure ReadAlong (d : Decoders) (rawFrames : Bytes) (s : NativeState) (client : Client)
    (s' : NativeState) : Prop where
  client : s'.wire.client = client
  parser : s'.parser = (SSEParser.feed (chatStreamUsage d) s.parser rawFrames).2

variable {env : StreamEnv} {s : NativeState}

lemma sniffNative_finds (d : Decoders) (events : List SSEEvent) (w : Wire) :
    (loop (sniffNative d) events w).Ends
      (fun w' => w'.client = w.client ∧
        (events.findSome? fun ev => openAIStreamEventError d ev.data) = none) (fun _ => False)
      fun r => r.2.client = w.client ∧ r.1 ≠ none ∧
        (events.findSome? fun ev => openAIStreamEventError d ev.data) = r.1 := by
  induction events generalizing w with
  | nil => exact ⟨rfl, rfl⟩
  | cons ev events ih =>
    rw [loop, sniffNative]
    cases he : openAIStreamEventError d ev.data with
    | some err => simp [Flow.bind, Flow.Ends, he]
    | none =>
      simp only [Flow.bind, findSome?_cons, he]
      exact ih _

/-- What is found in the frames before they are sent. -/
def frameError (d : Decoders) (rawFrames : Bytes) (s : NativeState) : Option GoError :=
  ((feed (chatStreamUsage d) s.parser rawFrames).1.findSome?
      fun ev => openAIStreamEventError d ev.data) <|>
    if s.headersSent then none else openAIJSONStreamError d rawFrames

lemma forwardFrames_outcome (env : StreamEnv) (rawFrames : Bytes) (hl : s.wire.client.left = none) :
    (forwardFrames env rawFrames s).Ends (fun s' => frameError env.decoders rawFrames s = none ∧
        s'.headersSent = true ∧ ReadAlong env.decoders rawFrames s
          { s.wire.client with frames := s.wire.client.frames ++ [.raw rawFrames] } s')
      (fun _ => False) fun r => r.2.client = s.wire.client ∧ r.1 ≠ none ∧
        frameError env.decoders rawFrames s = r.1 := by
  have hn := sniffNative_finds env.decoders (feed (chatStreamUsage env.decoders) s.parser
    rawFrames).1 s.wire
  unfold forwardFrames
  dsimp only
  generalize loop (sniffNative env.decoders) _ s.wire = sniffed at hn ⊢
  cases sniffed with
  | leave w => exact hn
  | ret r =>
    obtain ⟨hc, hr, he⟩ := hn
    obtain ⟨err, hr'⟩ := Option.ne_none_iff_exists'.mp hr
    refine ⟨hc, hr, ?_⟩
    rw [frameError, he, hr']
    rfl
  | next w =>
    obtain ⟨hc, he⟩ := hn
    have hw : ∀ s₁ : NativeState, s₁.wire.client = w.client → s₁.headersSent = true →
        s₁.parser = (feed (chatStreamUsage env.decoders) s.parser rawFrames).2 →
        ((interceptWrite env (nativeExtractor env.decoders s₁.wire.gctx) rawFrames
          (s₁.wire, s₁.intercepting)).map fun r =>
            { s₁ with wire := r.1, intercepting := r.2 }).Ends (fun s' => s'.headersSent = true ∧
          ReadAlong env.decoders rawFrames s
            { s.wire.client with frames := s.wire.client.frames ++ [.raw rawFrames] } s')
        (fun _ => False) fun _ => False := by
      intro s₁ h ho hp
      have hc' : (s₁.wire.triggerFirstByte env).client = s.wire.client := h.trans hc
      unfold interceptWrite
      dsimp only
      rw [hc', Client.write, hl]
      exact ⟨ho, rfl, hp⟩
    have hf : frameError env.decoders rawFrames s = if s.headersSent then none
        else openAIJSONStreamError env.decoders rawFrames := by
      rw [frameError, he]
      rfl
    rw [hf]
    simp only [Flow.map, Flow.bind, openNative]
    split_ifs with hsn
    · refine (hw { s with wire := w, parser := _ } rfl hsn rfl).imp (fun _ h => ⟨rfl, h⟩)
        (fun _ => id) fun _ h => h.elim
    · cases hj : openAIJSONStreamError env.decoders rawFrames with
      | some err => exact ⟨hc, by simp, rfl⟩
      | none =>
        refine (hw ⟨w.triggerFirstByte env, s.intercepting, _, s.pending, true⟩ rfl rfl rfl).imp
          (fun _ h => ⟨rfl, h⟩) (fun _ => id) fun _ h => h.elim

lemma mem_eventsOf_of_front {extract : Bytes → TokenUsage} {pre stream : Bytes}
    (h : pre <+: stream) {ev : SSEEvent} (he : ev ∈ eventsOf extract pre) :
    ev ∈ eventsOf extract stream := by
  obtain ⟨rest, rfl⟩ := h
  rw [← (feed_after extract pre rest).1]
  exact mem_append_left _ he

/-- The first frames are searched like the whole, and an error in later ones is one of the
whole. -/
lemma frameError_spec (d : Decoders) (rawFrames : Bytes) {done : Bytes}
    (hp : s.parser = SSEParser.after done) (ho : s.headersSent = decide (done ≠ [])) :
    (done = [] → frameError d rawFrames s = openingError d (done ++ rawFrames)) ∧
      (frameError d rawFrames s ≠ none → openingError d (done ++ rawFrames) ≠ none) := by
  have he := (feed_after (chatStreamUsage d) done rawFrames).1
  rw [← hp] at he
  have hi : done = [] → frameError d rawFrames s = openingError d (done ++ rawFrames) := by
    rintro rfl
    rw [eventsOf_nil, nil_append] at he
    simp [frameError, openingError, he, ho]
  refine ⟨hi, fun hn => ?_⟩
  by_cases hd : done = []
  · rwa [← hi hd]
  · unfold frameError at hn
    rw [openingError, ← he, findSome?_append]
    simp_all

/-- One read: the frames that become complete are sent, unless an error is found in them. -/
lemma nativeRead_spec (env : StreamEnv) {w : Wire} {received : Bytes} (chunk : Bytes)
    (hs : FrameAligned w received s)
    (hf : (received ++ chunk).length - completeSSEPrefixLen (received ++ chunk) 0 ≤
      maxOpenAISSEFrameBytes) :
    (nativeRead env chunk s).Ends
      (fun s' => FrameAligned w (received ++ chunk) s' ∧ (completeFrames received = [] →
        completeFrames (received ++ chunk) ≠ [] →
          openingError env.decoders (completeFrames (received ++ chunk)) = none))
      (fun _ => False)
      fun r => r.2.client = s.wire.client ∧ completeFrames (received ++ chunk) ≠ [] ∧ r.1 ≠ none ∧
        openingError env.decoders (completeFrames (received ++ chunk)) ≠ none ∧
        (completeFrames received = [] →
          openingError env.decoders (completeFrames (received ++ chunk)) = r.1) := by
  obtain ⟨hl, hsn, hp, hpn, ho⟩ := hs
  obtain ⟨hle, htt⟩ := completeSSEPrefixLen_append received chunk
  have hnn := (completeSSEPrefixLen_append received []).2
  rw [append_nil, append_nil, ← hpn] at hnn
  rw [← hpn] at htt
  have hln := length_take_of_le hle
  have hsp : received ++ chunk =
      received.take (completeSSEPrefixLen received 0) ++ (s.pending ++ chunk) := by
    rw [hpn, ← append_assoc, take_append_drop]
  have hpl := (completeSSEPrefixLen_append (s.pending ++ chunk) []).1
  unfold nativeRead completeFrames
  dsimp only
  rw [completeSSEPrefixLen_rescan (by omega)]
  generalize received.take (completeSSEPrefixLen received 0) = done at *
  generalize s.pending ++ chunk = pending at *
  generalize completeSSEPrefixLen pending 0 = n at *
  have ht : (received ++ chunk).take (completeSSEPrefixLen (received ++ chunk) 0) =
      done ++ pending.take n := by
    rw [htt, ← hln, hsp, take_length_add_append]
  have hd : pending.drop n =
      (received ++ chunk).drop (completeSSEPrefixLen (received ++ chunk) 0) := by
    rw [htt, ← hln, hsp, drop_length_add_append]
  have hr : ¬maxOpenAISSEFrameBytes < (pending.drop n).length := by
    rw [hd, length_drop]
    exact not_lt.mpr hf
  have hh : s.headersSent = decide (done ≠ []) := by
    rw [ho, ← hln]
    simp
  obtain ⟨hfirst, hlater⟩ := frameError_spec env.decoders (pending.take n) hp hh
  rw [ht]
  by_cases hn : n = 0
  · subst hn
    rw [take_zero, append_nil] at ht ⊢
    rw [drop_zero] at hd hr
    rw [if_pos rfl, if_neg hr]
    exact ⟨⟨hl, ht ▸ hsn, ht ▸ hp, hd, htt ▸ ho⟩, fun h h' => absurd h h'⟩
  · rw [if_neg hn]
    have hp' := (feed_after (chatStreamUsage env.decoders) done (pending.take n)).2
    rw [← hp] at hp'
    have hout := forwardFrames_outcome env (pending.take n) hl
    generalize forwardFrames env (pending.take n) s = flow at hout ⊢
    cases flow with
    | leave => exact hout
    | ret r =>
      obtain ⟨hc, hne, he⟩ := hout
      refine ⟨hc, ?_, hne, hlater (he ▸ hne), fun h => (hfirst h) ▸ he⟩
      have hpos : 0 < (pending.take n).length := by
        rw [length_take]
        omega
      exact append_ne_nil_of_right_ne_nil _ (ne_nil_of_length_pos hpos)
    | next s' =>
      obtain ⟨he, hopen, hread⟩ := hout
      simp only [Flow.bind, if_neg hr]
      refine ⟨⟨?_, ?_, ?_, hd, ?_⟩, fun h _ => (hfirst h) ▸ he⟩
      · rw [hread.client]
        exact hl
      · rw [hread.client, rawText_append, rawText_raw, hsn, ht, append_assoc]
      · rw [hread.parser, hp', ht]
      · rw [hopen, htt]
        exact (decide_eq_true (by omega)).symm

lemma frameAligned_start {w : Wire} (hc : w.client.left = none) :
    FrameAligned w [] { wire := w } :=
  ⟨hc, by simp, newSSEParser_eq, rfl, rfl⟩

lemma nativeReads_aligned (env : StreamEnv) {w : Wire} (hc : w.client.left = none)
    {stream : Bytes} (hf : FramesWithinLimit stream)
    (he : ∀ front, front <+: stream → completeFrames front ≠ [] →
      openingError env.decoders (completeFrames front) = none)
    (reads : List Bytes) (hr : reads.flatten <+: stream) :
    ∃ s, loop (nativeRead env) reads { wire := w } = .next s ∧
      FrameAligned w reads.flatten s := by
  have hl : ∀ received s, received ++ reads.flatten <+: stream → FrameAligned w received s →
      (loop (nativeRead env) reads s).Ends (FrameAligned w (received ++ reads.flatten))
        (fun _ => False) fun _ => False := by
    clear hr
    induction reads with
    | nil =>
      intro received s _ hs
      rwa [flatten_nil, append_nil]
    | cons chunk reads ih =>
      intro received s hp hs
      rw [flatten_cons, ← append_assoc] at hp ⊢
      have hfr : received ++ chunk <+: stream := (prefix_append _ _).trans hp
      refine ((nativeRead_spec env chunk hs (hf _ hfr)).imp (fun s' h => h.1) (fun _ => id)
        fun r h => ?_).bind fun s hs => ih _ s hp hs
      exact h.2.2.2.1 (he _ hfr h.2.1)
  exact (hl [] _ hr (frameAligned_start hc)).exists_next

lemma nativeReads_refused (env : StreamEnv) {w : Wire} {stream : Bytes} {err : GoError}
    (hf : FramesWithinLimit stream)
    (he : ∀ front, front <+: stream → completeFrames front ≠ [] →
      openingError env.decoders (completeFrames front) = some err)
    (hne : completeFrames stream ≠ []) (reads : List Bytes) (received : Bytes)
    (hr : received ++ reads.flatten = stream) (hn : completeFrames received = []) {s : NativeState}
    (hs : FrameAligned w received s) :
    ∃ r, loop (nativeRead env) reads s = .ret r ∧ r.1 = some err ∧
      rawText r.2.client.frames = rawText w.client.frames := by
  induction reads generalizing received s with
  | nil =>
    rw [flatten_nil, append_nil] at hr
    exact absurd (hr ▸ hn) hne
  | cons chunk reads ih =>
    rw [flatten_cons, ← append_assoc] at hr
    have hfr : received ++ chunk <+: stream := ⟨_, hr⟩
    have hread := nativeRead_spec env chunk hs (hf _ hfr)
    rw [loop]
    generalize nativeRead env chunk s = flow at hread ⊢
    cases flow with
    | leave => cases hread
    | ret r =>
      obtain ⟨hc, hcut, -, -, ho⟩ := hread
      refine ⟨r, rfl, ?_, ?_⟩
      · rw [← ho hn, he _ hfr hcut]
      · rw [hc, hs.sent, show received.take _ = [] from hn, append_nil]
    | next s' =>
      obtain ⟨ha, ho⟩ := hread
      refine ih _ hr ?_ ha
      by_contra hcut
      rw [he _ hfr hcut] at ho
      cases ho hn hcut

lemma Forwardable.openingError_eq_none {d : Decoders} {stream front : Bytes}
    (h : Forwardable d stream) (hf : front <+: stream) :
    openingError d (completeFrames front) = none := by
  have hc : completeFrames front <+: stream := IsPrefix.trans ⟨_, take_append_drop _ _⟩ hf
  have he : ((eventsOf (chatStreamUsage d) (completeFrames front)).findSome?
      fun ev => openAIStreamEventError d ev.data) = none :=
    findSome?_eq_none_iff.mpr fun ev hv => h.events ev (mem_eventsOf_of_front hc hv)
  rw [openingError, he]
  exact h.notJSON _ hc

/-- After every read of a stream without an error, the client has the complete frames of
what was received, as one scan of the whole text finds them. -/
theorem forwarded_frames_aligned (env : StreamEnv) (w : Wire) (hclient : w.client.left = none)
    (front rest : List Bytes) (hstream : Forwardable env.decoders (front ++ rest).flatten) :
    ∃ s, loop (nativeRead env) front { wire := w } = .next s ∧
      rawText s.wire.client.frames = rawText w.client.frames ++
        front.flatten.take (completeSSEPrefixLen front.flatten 0) := by
  have hp : front.flatten <+: (front ++ rest).flatten := by simp
  obtain ⟨s, hs, ha⟩ := nativeReads_aligned env hclient hstream.frames
    (fun _ hf _ => hstream.openingError_eq_none hf) front hp
  exact ⟨s, hs, ha.sent⟩

lemma forwardable_pair : Forwardable silentEnv.decoders (ascii "data: a\n\ndata: b") := by
  have hp : ∀ pre ∈ (ascii "data: a\n\ndata: b").inits,
      openAIJSONStreamError silentEnv.decoders pre = none := by decide
  refine ⟨fun ev _ => by simp [openAIStreamEventError, silentEnv, silentDecoders], fun pre hf => ?_,
    fun pre hf => ?_⟩
  · exact hp pre ((mem_inits _ _).mpr hf)
  · exact (Nat.sub_le _ _).trans (hf.length_le.trans (by decide))

/-- A block end that is split between two reads. -/
theorem split_frame_forwarded : ∃ s, loop (nativeRead silentEnv) [ascii "data: a\n", ascii "\ndata"]
        { wire := ⟨plainRequest, {}⟩ } = .next s ∧
      rawText s.wire.client.frames = [] ++ (ascii "data: a\n\ndata").take 9 :=
  forwarded_frames_aligned silentEnv ⟨plainRequest, {}⟩ rfl [ascii "data: a\n", ascii "\ndata"]
    [ascii ": b"] forwardable_pair

/-! ## The same stream in other reads -/

/-- What is returned and was sent. -/
def outcome (env : StreamEnv) (answer : Answer) (w : Wire) : Option GoError × Bytes :=
  ((handleOpenAIStream env answer w).1, rawText (handleOpenAIStream env answer w).2.client.frames)

lemma completeFrames_ne_nil_iff (data : Bytes) :
    completeFrames data ≠ [] ↔ completeSSEPrefixLen data 0 ≠ 0 := by
  have hle := (completeSSEPrefixLen_append data []).1
  rw [← length_pos_iff, completeFrames, length_take]
  omega

lemma completeFrames_append_ne_nil (h : completeFrames data ≠ []) (more : Bytes) :
    completeFrames (data ++ more) ≠ [] := by
  rw [completeFrames_ne_nil_iff] at h ⊢
  have ha := (completeSSEPrefixLen_append data more).2
  omega

lemma nativeEnd_frames {ending : Ending} (hg : ending ≠ .clientGone) (s : NativeState) :
    (nativeEnd env ending s).2.client.frames = s.wire.client.frames := by
  unfold nativeEnd
  cases ending with
  | eof =>
    dsimp only
    split_ifs <;> rfl
  | clientGone => exact absurd rfl hg
  | failed e => rfl

section Splits
variable {w : Wire} {stream : Bytes}

variable {ending : Ending}

lemma nativeEnd_error (hg : ending ≠ .clientGone) {s s' : NativeState} (h : FrameAligned w stream s)
    (h' : FrameAligned w stream s') : (nativeEnd env ending s).1 = (nativeEnd env ending s').1 := by
  cases ending with
  | eof =>
    simp only [nativeEnd, h.pending, h'.pending, h.opened, h'.opened]
    split_ifs <;> rfl
  | clientGone => exact absurd rfl hg
  | failed e => rfl

variable (hclient : w.client.left = none)
include hclient

lemma outcome_of_aligned (hg : ending ≠ .clientGone) (hf : FramesWithinLimit stream)
    (he : ∀ front, front <+: stream → completeFrames front ≠ [] →
      openingError env.decoders (completeFrames front) = none)
    {answer answer' : Answer} (ha : answer.reads.flatten = stream) (hb : answer.ending = ending)
    (ha' : answer'.reads.flatten = stream) (hb' : answer'.ending = ending) :
    outcome env answer w = outcome env answer' w := by
  obtain ⟨s, hs, h⟩ := nativeReads_aligned env hclient hf he answer.reads ⟨[], by simp [ha]⟩
  obtain ⟨s', hs', h'⟩ := nativeReads_aligned env hclient hf he answer'.reads ⟨[], by simp [ha']⟩
  rw [ha] at h
  rw [ha'] at h'
  simp only [outcome, handleOpenAIStream, hs, hs', hb, hb', Flow.elim, nativeEnd_frames hg,
    nativeEnd_error hg h h', h.sent, h'.sent]

lemma outcome_of_refused {err : GoError} (hf : FramesWithinLimit stream)
    (he : ∀ front, front <+: stream → completeFrames front ≠ [] →
      openingError env.decoders (completeFrames front) = some err)
    (hne : completeFrames stream ≠ []) {answer : Answer} (ha : answer.reads.flatten = stream) :
    outcome env answer w = (some err, rawText w.client.frames) := by
  obtain ⟨r, hr, herr, hsent⟩ := nativeReads_refused env hf he hne answer.reads [] ha rfl
    (frameAligned_start hclient)
  rw [outcome, handleOpenAIStream, hr]
  exact Prod.ext herr hsent

/-- A cut in two reads: its error is returned and nothing is sent, or its frames are sent. -/
lemma outcome_of_cut (env : StreamEnv) {front rest : Bytes} (hf : FramesWithinLimit (front ++ rest))
    (hne : completeFrames front ≠ []) (hg : ending ≠ .clientGone) :
    (∀ err, openingError env.decoders (completeFrames front) = some err →
      outcome env ⟨200, [front, rest], ending⟩ w = (some err, rawText w.client.frames)) ∧
    (openingError env.decoders (completeFrames front) = none →
      (outcome env ⟨200, [front, rest], ending⟩ w).2 ≠ rawText w.client.frames) := by
  have hfirst := nativeRead_spec env front (frameAligned_start hclient)
    (hf front (prefix_append front rest))
  simp only [outcome, handleOpenAIStream, loop]
  rw [nil_append] at hfirst
  generalize nativeRead env front { wire := w } = flow at hfirst ⊢
  cases flow with
  | leave => cases hfirst
  | ret r =>
    obtain ⟨hc, -, hr, ho, he⟩ := hfirst
    refine ⟨fun err herr => ?_, fun hn => absurd hn ho⟩
    exact Prod.ext ((he rfl).symm.trans herr) (congrArg (fun c => rawText c.frames) hc)
  | next s =>
    obtain ⟨ha, ho⟩ := hfirst
    refine ⟨fun err herr => by simp [ho rfl hne] at herr, fun _ => ?_⟩
    have hsecond := nativeRead_spec env rest ha (hf _ ⟨[], by simp⟩)
    simp only [Flow.bind]
    generalize nativeRead env rest s = flow at hsecond ⊢
    cases flow with
    | leave => cases hsecond
    | ret r =>
      simp only [Flow.elim, hsecond.1, ha.sent, ne_eq, append_right_eq_self]
      exact hne
    | next s' =>
      simp only [Flow.elim, nativeEnd_frames hg, hsecond.1.sent, ne_eq, append_right_eq_self]
      exact completeFrames_append_ne_nil hne rest

end Splits

/-- An environment in which every event that names an error is one. -/
def errorEnv : StreamEnv :=
  { silentEnv with
    decoders := { silentEnv.decoders with errorEvent := fun _ => some (some { type := "e" }) } }

end TokenliveGateway
