import Mathlib.Data.List.Perm.Subperm
import Mathlib.Data.List.TakeWhile
import TokenliveGateway.ChatResponsesStream
import TokenliveGateway.KeyedEntries

/-!
# Names of tools

A `ToolNameMapper` gives every pair of a namespace and a name one name that strict
upstreams accept, and finds the pair again by this name. The pair that comes first under
a key keeps its name; a name that is taken gets a number behind it.
-/
namespace TokenliveGateway
open KeyedEntries List Option

/-- `ToolNameMapper`. The maps are lists of pairs, the sets are lists. -/
structure ToolNameMapper where
  /-- sanitized name, by namespace and name with a zero character between them -/
  forward : List (String × String) := []
  /-- namespace and name, by sanitized name -/
  reverse : List (String × String × String) := []
  used : List String := []
  customTools : List String := []

/-- A character that strict upstreams accept in a name. -/
def isNameChar (c : Char) : Bool :=
  ('a' ≤ c && c ≤ 'z') || ('A' ≤ c && c ≤ 'Z') || ('0' ≤ c && c ≤ '9') || c = '_' || c = '-'

def sanitizeToolName (s : String) : String :=
  String.ofList (s.toList.map fun c => if isNameChar c then c else '_')

/-- Only letters, digits, underscores and hyphens. -/
def SafeName (s : String) : Prop := ∀ c ∈ s.toList, isNameChar c = true

instance (s : String) : Decidable (SafeName s) :=
  decidable_of_iff (s.toList.all isNameChar = true) List.all_eq_true

namespace ToolNameMapper

/-- `namespace + "\x00" + name`. -/
def key (pair : String × String) : String := pair.1 ++ "\x00" ++ pair.2

/-- `fmt.Sprintf("%s_%d", base, i)`. -/
def candidate (base : String) (i : ℕ) : String := base ++ "_" ++ toString i

/-- The loop that looks for a free candidate from `i` on. -/
def freeCandidate (used : List String) (base : String) : ℕ → ℕ → String
  | 0, i => candidate base i
  | fuel + 1, i =>
    if candidate base i ∈ used then freeCandidate used base fuel (i + 1) else candidate base i

def newName (m : ToolNameMapper) (pair : String × String) : String :=
  let full := if pair.1 = "" then pair.2 else pair.1 ++ "." ++ pair.2
  let sanitized := sanitizeToolName full
  if sanitized ∈ m.used then freeCandidate m.used sanitized m.used.length 2 else sanitized

def sanitizeAndRegister (m : ToolNameMapper) (pair : String × String) : String × ToolNameMapper :=
  match m.forward.lookup (key pair) with
  | some sanitized => (sanitized, m)
  | none =>
    let sanitized := m.newName pair
    (sanitized,
      { m with
        forward := (key pair, sanitized) :: m.forward
        reverse := (sanitized, pair) :: m.reverse
        used := sanitized :: m.used })

def restore (m : ToolNameMapper) (sanitized : String) : String × String :=
  (m.reverse.lookup sanitized).getD (splitChatToolName sanitized)

def registerCustom (m : ToolNameMapper) (name : String) : ToolNameMapper :=
  { m with customTools := name :: m.customTools }

def isCustom (m : ToolNameMapper) (name : String) : Bool :=
  name = "apply_patch" || name ∈ m.customTools

/-- What the stream asks the mapper. -/
def names (m : ToolNameMapper) : ToolNames := ⟨m.restore, m.isCustom⟩

/-! ## Free names -/

lemma candidate_injective (base : String) : Function.Injective (candidate base) := by
  intro i j hi
  have hc := congrArg String.toList hi
  simp only [candidate, String.toList_append, append_cancel_left_eq] at hc
  exact GoStrings.toString_nat_injective (String.toList_injective hc)

/-- The loop ends with the first free candidate, or with the last one it tries. -/
lemma freeCandidate_eq (used : List String) (base : String) (fuel start : ℕ) :
    ∃ i, start ≤ i ∧ freeCandidate used base fuel start = candidate base i ∧
      (∀ j, start ≤ j → j < i → candidate base j ∈ used) ∧
      (candidate base i ∈ used → i = start + fuel) := by
  induction fuel generalizing start with
  | zero => exact ⟨start, le_rfl, rfl, fun j hj hl => absurd hl (by omega), fun _ => rfl⟩
  | succ fuel ih =>
    unfold freeCandidate
    split_ifs with hu
    · obtain ⟨i, hi, hs, hb, hl⟩ := ih (start + 1)
      refine ⟨i, by omega, hs, fun j hj hl => ?_, fun hm => ?_⟩
      · rcases Nat.eq_or_lt_of_le hj with rfl | hj
        · exact hu
        · exact hb j hj hl
      · rw [hl hm]
        omega
    · exact ⟨start, le_rfl, rfl, fun j hj hl => absurd hl (by omega), fun hm => absurd hm hu⟩

/-- More candidates are tried than names are used, so the loop ends with a free one. -/
lemma freeCandidate_not_mem (used : List String) (base : String) (start : ℕ) :
    freeCandidate used base used.length start ∉ used := by
  obtain ⟨i, -, hs, hb, hl⟩ := freeCandidate_eq used base used.length start
  rw [hs]
  intro hu
  obtain rfl := hl hu
  let tried := (range (used.length + 1)).map fun j => candidate base (start + j)
  have hn : tried.Nodup := by
    refine List.Nodup.map (fun j k hk => ?_) nodup_range
    have hi := candidate_injective base hk
    omega
  have hs : tried ⊆ used := by
    intro name hm
    obtain ⟨j, hj, rfl⟩ := mem_map.mp hm
    rcases Nat.eq_or_lt_of_le (Nat.lt_succ_iff.mp (mem_range.mp hj)) with rfl | hj
    · exact hu
    · exact hb _ (by omega) (by omega)
  have hl := (List.Nodup.subperm hn hs).length_le
  rw [length_map, length_range] at hl
  omega

variable (m : ToolNameMapper)

lemma newName_not_mem (pair : String × String) : m.newName pair ∉ m.used := by
  dsimp only [newName]
  generalize sanitizeToolName _ = safe
  split_ifs with hu
  · exact freeCandidate_not_mem _ _ _
  · exact hu

lemma newName_eq (pair : String × String) : ∃ full : String, (pair.1 ≠ "" → full ≠ "") ∧
    (m.newName pair = sanitizeToolName full ∨
      ∃ i, m.newName pair = candidate (sanitizeToolName full) i) := by
  refine ⟨if pair.1 = "" then pair.2 else pair.1 ++ "." ++ pair.2, fun hp => ?_, ?_⟩
  · rw [if_neg hp]
    simp
  · dsimp only [newName]
    generalize sanitizeToolName _ = safe
    split_ifs
    · obtain ⟨i, -, hs, -⟩ := freeCandidate_eq m.used safe m.used.length 2
      exact .inr ⟨i, hs⟩
    · exact .inl rfl

/-! ## Safe names -/

lemma safeName_sanitize (s : String) : SafeName (sanitizeToolName s) := by
  intro c hc
  rw [sanitizeToolName, String.toList_ofList] at hc
  obtain ⟨c', -, rfl⟩ := mem_map.mp hc
  split_ifs with hs
  · exact hs
  · decide

lemma safeName_candidate {base : String} (hb : SafeName base) (i : ℕ) :
    SafeName (candidate base i) := by
  intro c hc
  simp only [candidate, String.toList_append, mem_append] at hc
  rcases hc with (hc | hc) | hc
  · exact hb c hc
  · obtain rfl : c = '_' := by simpa using hc
    decide
  · have hd := GoStrings.isDigit_of_mem_toString hc
    simp only [Char.isDigit, Bool.and_eq_true, decide_eq_true_eq] at hd
    have hr : ('0' ≤ c && c ≤ '9') = true := by
      simp only [Bool.and_eq_true, decide_eq_true_eq]
      exact hd
    simp [isNameChar, hr]

lemma safeName_newName (pair : String × String) : SafeName (m.newName pair) := by
  obtain ⟨full, -, hn | ⟨i, hn⟩⟩ := m.newName_eq pair
  · exact hn ▸ safeName_sanitize full
  · exact hn ▸ safeName_candidate (safeName_sanitize full) i

lemma split_of_safeName {name : String} (hnm : SafeName name) :
    splitChatToolName name = ("", name) := by
  have hd : '.' ∉ name.toList := by
    intro hm
    exact absurd (hnm '.' hm) (by decide)
  have ha : name.toList.reverse.dropWhile (· ≠ '.') = [] := by
    rw [dropWhile_eq_nil_iff]
    intro c hc
    have hn : c ≠ '.' := by
      rintro rfl
      exact hd (mem_reverse.mp hc)
    simpa using hn
  unfold splitChatToolName
  rw [ha]
  simp

lemma newName_ne_empty {pair : String × String} (hp : pair.1 ≠ "") : m.newName pair ≠ "" := by
  obtain ⟨full, hf, hn | ⟨i, hn⟩⟩ := m.newName_eq pair
  · intro he
    have hl := congrArg String.length (hn.symm.trans he)
    simp [sanitizeToolName] at hl
    exact hf hp hl
  · rw [hn, candidate]
    simp

/-! ## What a mapper remembers -/

/-- The pair is the first one under its key. -/
def First (pairs : List (String × String)) (pair : String × String) : Prop :=
  pairs.find? (fun other => key other = key pair) = some pair

/-- The mapper has registered `pairs` in this order: the first pair under a key has a safe
name of its own, and this name finds it again. -/
structure Registered (pairs : List (String × String)) (m : ToolNameMapper) : Prop where
  used : ∀ name, name ∈ m.used ↔ m.reverse.lookup name ≠ none
  safe : ∀ name ∈ m.used, SafeName name
  named : ∀ name pair, m.reverse.lookup name = some pair → pair.1 ≠ "" → name ≠ ""
  keys : ∀ pair ∈ pairs, m.forward.lookup (key pair) ≠ none
  entry : ∀ k name, m.forward.lookup k = some name → ∃ pair,
    m.reverse.lookup name = some pair ∧ key pair = k ∧ First pairs pair
  origin : ∀ name pair, m.reverse.lookup name = some pair →
    m.forward.lookup (key pair) = some name

lemma registered_new : Registered [] {} := ⟨by simp, by simp, by simp, by simp, by simp, by simp⟩

section
variable {pairs : List (String × String)} {m : ToolNameMapper}
  {pair : String × String} {name : String}

lemma First.mem (h : First pairs pair) : pair ∈ pairs := mem_of_find?_eq_some h

lemma First.append (h : First pairs pair) (more) : First (pairs ++ more) pair := by
  unfold First at h ⊢
  rw [find?_append, h]
  rfl

variable (h : Registered pairs m)
include h

lemma Registered.custom (name : String) : Registered pairs (m.registerCustom name) :=
  { h with }

lemma Registered.known (hn : m.forward.lookup (key pair) ≠ none) :
    Registered (pairs ++ [pair]) m := by
  refine { h with keys := ?_, entry := ?_ }
  · intro pair' hp'
    rcases mem_append.mp hp' with hp' | hp'
    · exact h.keys pair' hp'
    · obtain rfl := mem_singleton.mp hp'
      exact hn
  · intro k name hk
    obtain ⟨found, hr, he, hf⟩ := h.entry k name hk
    exact ⟨found, hr, he, hf.append _⟩

/-- A pair with a new key gets a name that no other has. -/
lemma Registered.new (hn : m.forward.lookup (key pair) = none)
    (hfre : name ∉ m.used) (hsf : SafeName name) (hnm : pair.1 ≠ "" → name ≠ "") :
    Registered (pairs ++ [pair]) { m with
        forward := (key pair, name) :: m.forward
        reverse := (name, pair) :: m.reverse
        used := name :: m.used } := by
  have hi : First (pairs ++ [pair]) pair := by
    have hnn : pairs.find? (fun other => key other = key pair) = none := by
      rw [find?_eq_none]
      intro other ht hs
      rw [decide_eq_true_eq] at hs
      have he := h.keys other ht
      rw [hs] at he
      exact he hn
    unfold First
    rw [find?_append, hnn]
    simp
  -- a name that was given before is another one
  have ht : ∀ {other : String} {found : String × String},
      m.reverse.lookup other = some found → other ≠ name := by
    rintro other found hf rfl
    refine hfre ((h.used other).mpr ?_)
    rw [hf]
    exact some_ne_none _
  refine ⟨?_, ?_, ?_, ?_, ?_, ?_⟩
  · intro other
    by_cases hs : other = name
    · simp [hs]
    · rw [mem_cons, or_iff_right hs, lookup_cons_of_ne hs]
      exact h.used other
  · intro other hm
    rcases mem_cons.mp hm with rfl | hm
    · exact hsf
    · exact h.safe other hm
  · intro other found hf hsp
    by_cases hs : other = name
    · subst hs
      obtain rfl : pair = found := by simpa using hf
      exact hnm hsp
    · rw [lookup_cons_of_ne hs] at hf
      exact h.named other found hf hsp
  · intro pair' hp'
    by_cases hs : key pair' = key pair
    · simp [hs]
    · rw [lookup_cons_of_ne hs]
      rcases mem_append.mp hp' with hp' | hp'
      · exact h.keys pair' hp'
      · obtain rfl := mem_singleton.mp hp'
        exact absurd rfl hs
  · intro k other hk
    by_cases hs : k = key pair
    · subst hs
      obtain rfl : name = other := by simpa using hk
      exact ⟨pair, by simp, rfl, hi⟩
    · rw [lookup_cons_of_ne hs] at hk
      obtain ⟨found, hf, he, hff⟩ := h.entry k other hk
      exact ⟨found, (lookup_cons_of_ne (ht hf)).trans hf, he, hff.append _⟩
  · intro other found hf
    by_cases hs : other = name
    · subst hs
      obtain rfl : pair = found := by simpa using hf
      simp
    · rw [lookup_cons_of_ne hs] at hf
      have ho := h.origin other found hf
      have he : key found ≠ key pair := by
        intro hq
        rw [hq, hn] at ho
        cases ho
      exact (lookup_cons_of_ne he).trans ho

lemma Registered.register (pair : String × String) :
    Registered (pairs ++ [pair]) (m.sanitizeAndRegister pair).2 ∧
      (m.sanitizeAndRegister pair).2.forward.lookup (key pair) =
        some (m.sanitizeAndRegister pair).1 := by
  unfold sanitizeAndRegister
  cases hl : m.forward.lookup (key pair) with
  | some name =>
    refine ⟨h.known ?_, hl⟩
    rw [hl]
    exact some_ne_none _
  | none =>
    refine ⟨h.new hl (newName_not_mem m pair) (safeName_newName m pair) (newName_ne_empty m), ?_⟩
    simp

lemma Registered.first_of_reverse (hp : m.reverse.lookup name = some pair) :
    First pairs pair := by
  obtain ⟨found, hf, -, hi⟩ := h.entry _ _ (h.origin name pair hp)
  rw [hp, some.injEq] at hf
  rwa [hf]

/-! ## Sequences of registrations -/

omit h in
lemma forward_mono {k : String} (hn : m.forward.lookup k = some name) (pair : String × String) :
    (m.sanitizeAndRegister pair).2.forward.lookup k = some name := by
  unfold sanitizeAndRegister
  cases hl : m.forward.lookup (key pair) with
  | some _ => exact hn
  | none =>
    have he : k ≠ key pair := by
      rintro rfl
      rw [hn] at hl
      cases hl
    exact (lookup_cons_of_ne he).trans hn

lemma Registered.reverse_mono {found : String × String}
    (hf : m.reverse.lookup name = some found) (pair : String × String) :
    (m.sanitizeAndRegister pair).2.reverse.lookup name = some found := by
  unfold sanitizeAndRegister
  cases hl : m.forward.lookup (key pair) with
  | some _ => exact hf
  | none =>
    have hn : name ≠ m.newName pair := by
      intro hs
      refine newName_not_mem m pair ((h.used _).mpr ?_)
      rw [← hs, hf]
      exact some_ne_none _
    exact (lookup_cons_of_ne hn).trans hf

omit h

/-- Pairs that are registered one after another, and the names they get. -/
def registerAll (pairs : List (String × String)) (m : ToolNameMapper) :
    List String × ToolNameMapper :=
  chainAll
    (fun pair m => ([(m.sanitizeAndRegister pair).1], (m.sanitizeAndRegister pair).2)) pairs m

lemma registerAll_append (pairs more : List (String × String)) (m : ToolNameMapper) :
    registerAll (pairs ++ more) m =
      ((registerAll pairs m).1 ++ (registerAll more (registerAll pairs m).2).1,
        (registerAll more (registerAll pairs m).2).2) :=
  chainAll_append _ _ _ _

lemma registerAll_singleton (pair : String × String) (m : ToolNameMapper) :
    registerAll [pair] m = ([(m.sanitizeAndRegister pair).1], (m.sanitizeAndRegister pair).2) :=
  congrFun (chainAll_singleton _ _) _

/-- What a sequence of registrations leaves, and what it keeps. -/
lemma Registered.registerAll (h : Registered pairs m) (more : List (String × String)) :
    Registered (pairs ++ more) (registerAll more m).2 ∧ (∀ k name, m.forward.lookup k = some name →
        (ToolNameMapper.registerAll more m).2.forward.lookup k = some name) ∧
      (∀ name pair, m.reverse.lookup name = some pair →
        (ToolNameMapper.registerAll more m).2.reverse.lookup name = some pair) := by
  induction more using reverseRecOn with
  | nil =>
    rw [append_nil]
    exact ⟨h, fun _ _ hk => hk, fun _ _ hn => hn⟩
  | append_singleton more pair ih =>
    obtain ⟨hr, hf, hv⟩ := ih
    rw [registerAll_append, registerAll_singleton, ← append_assoc]
    exact ⟨(hr.register pair).1, fun k name hk => forward_mono (hf k name hk) pair,
      fun name found hn => hr.reverse_mono (hv name found hn) pair⟩

lemma forward_registerAll (pairs : List (String × String)) : List.Forall₂ (fun pair name =>
      (registerAll pairs {}).2.forward.lookup (key pair) = some name) pairs
        (registerAll pairs {}).1 := by
  induction pairs using reverseRecOn with
  | nil => exact .nil
  | append_singleton pairs pair ih =>
    have hr := (registered_new.registerAll pairs).1
    rw [registerAll_append, registerAll_singleton]
    refine rel_append (ih.imp fun other name hn => forward_mono hn pair) (.cons ?_ .nil)
    exact (hr.register pair).2

/-- Namespaces without a zero character and names can be read off the key. -/
lemma key_injective {pair' : String × String} (hp : '\x00' ∉ pair.1.toList)
    (hp' : '\x00' ∉ pair'.1.toList) (hk : key pair = key pair') : pair = pair' := by
  have hz : "\x00".toList = ['\x00'] := by decide
  have hc := congrArg String.toList hk
  simp only [key, String.toList_append, append_assoc, hz, singleton_append] at hc
  obtain ⟨hs, hn⟩ := GoStrings.append_separator_inj hp hp' hc
  exact Prod.ext (String.toList_injective hs) (String.toList_injective hn)

/-- After a sequence of registrations every name that was given in it leads back to its pair,
and its pair to it. -/
lemma registerAll_back {front : List (String × String)} (rest : List (String × String))
    (hzr : ∀ pair ∈ front ++ rest, '\x00' ∉ pair.1.toList) :
    List.Forall₂ (fun pair name => SafeName name ∧
        (registerAll (front ++ rest) {}).2.restore name = pair ∧
        (registerAll (front ++ rest) {}).2.sanitizeAndRegister pair =
          (name, (registerAll (front ++ rest) {}).2))
      front (registerAll front {}).1 := by
  have hb := (registered_new.registerAll front).1
  obtain ⟨ha, hp, -⟩ := hb.registerAll rest
  obtain ⟨hl, hz⟩ := forall₂_iff_zip.mp (forward_registerAll front)
  refine forall₂_iff_zip.mpr ⟨hl, fun {pair name} hm => ?_⟩
  have hpr : pair ∈ front := (of_mem_zip hm).1
  have hn := hp _ _ (hz hm)
  rw [registerAll_append]
  dsimp only
  obtain ⟨found, hr, hk, hf⟩ := ha.entry _ _ hn
  have hs : found = pair :=
    key_injective (hzr found (by simpa using hf.mem)) (hzr pair (by simp [hpr])) hk
  subst hs
  refine ⟨?_, ?_, ?_⟩
  · exact ha.safe name ((ha.used name).mpr (by rw [hr]; exact some_ne_none _))
  · rw [restore, hr]
    rfl
  · rw [sanitizeAndRegister, hn]

/-- For every sequence of registrations with namespaces that have no zero character: the names
are safe, each is restored to its pair after any later ones, a pair that is registered again
gets its name again and leaves the mapper as it was, two names are the same only for the same
pair, later registrations keep all mappings, and the search for a free name ends. -/
theorem registered_names_bijective (front rest : List (String × String))
    (hzero : ∀ pair ∈ front ++ rest, '\x00' ∉ pair.1.toList) :
    List.Forall₂ (fun pair name => SafeName name ∧
        (registerAll rest (registerAll front {}).2).2.restore name = pair ∧
        (registerAll rest (registerAll front {}).2).2.sanitizeAndRegister pair =
          (name, (registerAll rest (registerAll front {}).2).2)) front (registerAll front {}).1 ∧
      (∀ pair name pair' name', (pair, name) ∈ front.zip (registerAll front {}).1 →
        (pair', name') ∈ (front ++ rest).zip
          ((registerAll front {}).1 ++ (registerAll rest (registerAll front {}).2).1) →
        (name = name' ↔ pair = pair')) ∧
      (∀ k name, (registerAll front {}).2.forward.lookup k = some name →
        (registerAll rest (registerAll front {}).2).2.forward.lookup k = some name) ∧
      (∀ name pair, (registerAll front {}).2.reverse.lookup name = some pair →
        (registerAll rest (registerAll front {}).2).2.reverse.lookup name = some pair) ∧
      ∀ base, ∃ i, 2 ≤ i ∧ candidate base i ∉ (registerAll rest (registerAll front {}).2).2.used ∧
        (∀ j, 2 ≤ j → j < i →
          candidate base j ∈ (registerAll rest (registerAll front {}).2).2.used) ∧
        freeCandidate (registerAll rest (registerAll front {}).2).2.used base
          (registerAll rest (registerAll front {}).2).2.used.length 2 = candidate base i := by
  have hb := registerAll_back rest hzero
  have ha := @registerAll_back (front ++ rest) [] (by simpa using hzero)
  rw [append_nil, registerAll_append] at ha
  rw [registerAll_append] at hb
  obtain ⟨-, hf, hv⟩ := (registered_new.registerAll front).1.registerAll rest
  refine ⟨hb, ?_, hf, hv, fun base => ?_⟩
  · intro pair name pair' name' hp hp'
    obtain ⟨-, hr, hg⟩ := forall₂_zip hb hp
    obtain ⟨-, hr', hg'⟩ := forall₂_zip ha hp'
    constructor
    · rintro rfl
      exact hr.symm.trans hr'
    · rintro rfl
      exact congrArg Prod.fst (hg.symm.trans hg')
  · obtain ⟨i, hi, hs, hu, -⟩ := freeCandidate_eq _ base _ 2
    exact ⟨i, hi, hs ▸ freeCandidate_not_mem _ base 2, hu, hs⟩

/-- Two pairs that would both get `a_b` are kept apart, and the first is found again after
later registrations. -/
theorem clashing_names_kept_apart :
    (registerAll [("a", "b"), ("", "a_b")] {}).1 = ["a_b", "a_b_2"] ∧
      (registerAll [("a.b", ""), ("a", "b")]
        (registerAll [("a", "b"), ("", "a_b")] {}).2).1 = ["a_b_", "a_b"] ∧
      (registerAll [("a.b", ""), ("a", "b")]
        (registerAll [("a", "b"), ("", "a_b")] {}).2).2.restore "a_b" = ("a", "b") := by
  have hk := (registered_names_bijective [("a", "b"), ("", "a_b")] [("a.b", ""), ("a", "b")]
    (by decide)).1
  refine ⟨by decide +kernel, by decide +kernel, ?_⟩
  exact (forall₂_zip hk (a := ("a", "b")) (b := "a_b") (by decide +kernel)).2.1

end

end ToolNameMapper
end TokenliveGateway
