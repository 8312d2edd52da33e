import Mathlib.Data.List.Basic
import Mathlib.Data.Option.Basic

/-!
# Text cut into blocks, chunk by chunk

A text has lines that end with a carriage return, a line feed, or both, and blocks that
end with an empty line. `cut` gives the blocks of a text whose line endings are
normalized, and what is left after the last one.

A framer gets the text in chunks. It keeps the unfinished block, and remembers a carriage
return at the end of a chunk, so that a line feed in front of the next one does not count
twice. However the text is cut, it gives the blocks of the whole text.
-/
namespace TokenliveGateway.BlockFraming
open List

variable {α : Type*} [DecidableEq α]

/-- Every line ending becomes a line feed. -/
def normalize (cr lf : α) : List α → List α
  | [] => []
  | [a] => if a = cr then [lf] else [a]
  | a :: b :: rest =>
    if a = cr ∧ b = lf then lf :: normalize cr lf rest
    else (if a = cr then lf else a) :: normalize cr lf (b :: rest)

/-- A symbol in front of the first block, or of the rest if there is no block. -/
def consTo (a : α) : List (List α) × List α → List (List α) × List α
  | ([], left) => ([], a :: left)
  | (block :: blocks, left) => ((a :: block) :: blocks, left)

/-- The blocks in front of each doubled line feed, and the rest. -/
def cut (lf : α) : List α → List (List α) × List α
  | [] => ([], [])
  | [a] => ([], [a])
  | a :: b :: rest =>
    if a = lf ∧ b = lf then ([] :: (cut lf rest).1, (cut lf rest).2)
    else consTo a (cut lf (b :: rest))

/-- The text without a line feed in front. -/
def dropFeed (lf : α) : List α → List α
  | [] => []
  | a :: rest => if a = lf then rest else a :: rest

/-- What a framer keeps between two chunks. -/
structure Framer (α : Type*) where
  rest : List α
  skip : Bool

open Framer

def Framer.fresh : Framer α := ⟨[], false⟩

/-- One chunk: the blocks that it completes. -/
def Framer.feed (cr lf : α) (f : Framer α) (chunk : List α) : List (List α) × Framer α :=
  let chunk' := if f.skip then dropFeed lf chunk else chunk
  let r := cut lf (f.rest ++ normalize cr lf chunk')
  (r.1, ⟨r.2, (f.skip && chunk.isEmpty) || chunk'.getLast? = some cr⟩)

def Framer.feedAll (cr lf : α) (f : Framer α) : List (List α) → List (List α) × Framer α
  | [] => ([], f)
  | chunk :: chunks =>
    let r := f.feed cr lf chunk
    let r' := r.2.feedAll cr lf chunks
    (r.1 ++ r'.1, r'.2)

variable {cr lf : α}

lemma cut_double (rest : List α) :
    cut lf (lf :: lf :: rest) = ([] :: (cut lf rest).1, (cut lf rest).2) := by
  rw [cut, if_pos ⟨rfl, rfl⟩]

lemma cut_cons_cons {a b : α} (h : ¬(a = lf ∧ b = lf)) (rest : List α) :
    cut lf (a :: b :: rest) = consTo a (cut lf (b :: rest)) := by
  rw [cut, if_neg h]

lemma cut_snd_of_fst_eq_nil {text : List α} (h : (cut lf text).1 = []) :
    (cut lf text).2 = text := by
  induction text using cut.induct lf with
  | case1 | case2 => rfl
  | case3 a b rest hd =>
    obtain ⟨rfl, rfl⟩ := hd
    rw [cut_double] at h
    exact nomatch h
  | case4 a b rest hne ih =>
    rw [cut_cons_cons hne] at h ⊢
    rcases hc : cut lf (b :: rest) with ⟨_ | ⟨block, bs⟩, left⟩
    · rw [hc] at ih
      exact congrArg (a :: ·) (ih rfl)
    · rw [hc] at h
      exact nomatch h

variable (lf) in
/-- A text can be cut from where the blocks of its front end. -/
lemma cut_append (pre back : List α) : cut lf (pre ++ back) =
      ((cut lf pre).1 ++ (cut lf ((cut lf pre).2 ++ back)).1,
        (cut lf ((cut lf pre).2 ++ back)).2) := by
  induction pre using cut.induct lf with
  | case1 | case2 => simp [cut]
  | case3 a b rest hd ih =>
    obtain ⟨rfl, rfl⟩ := hd
    rw [cons_append, cons_append, cut_double, cut_double, ih]
    rfl
  | case4 a b rest hne ih =>
    have hw : cut lf (a :: b :: rest ++ back) = consTo a (cut lf (b :: rest ++ back)) :=
      cut_cons_cons hne (rest ++ back)
    rw [hw, cut_cons_cons hne]
    rcases hc : cut lf (b :: rest) with ⟨_ | ⟨block, bs⟩, left⟩
    · -- nothing is cut off in front, so the rest is still the whole front
      have hl : left = b :: rest := by
        have hs : (cut lf (b :: rest)).2 = b :: rest := cut_snd_of_fst_eq_nil (by rw [hc])
        rwa [hc] at hs
      subst hl
      change _ = ([] ++ (cut lf (a :: b :: rest ++ back)).1, (cut lf (a :: b :: rest ++ back)).2)
      rw [hw]
      rfl
    · rw [ih, hc]
      rfl

lemma normalize_cons_cons_of_ne {a b : α} (h : ¬(a = cr ∧ b = lf)) (rest : List α) :
    normalize cr lf (a :: b :: rest) =
      (if a = cr then lf else a) :: normalize cr lf (b :: rest) := by
  rw [normalize, if_neg h]

/-- A line feed behind a carriage return belongs to it. -/
lemma normalize_append (hne : cr ≠ lf) (pre back : List α) :
    normalize cr lf (pre ++ back) = normalize cr lf pre ++
      normalize cr lf (if pre.getLast? = some cr then dropFeed lf back else back) := by
  induction pre using normalize.induct cr lf with
  | case1 => rfl
  | case2 =>
    cases back with
    | nil => simp [normalize, dropFeed]
    | cons b rest => by_cases hb : b = lf <;> simp [normalize, dropFeed, hb]
  | case3 a ha =>
    cases back with
    | nil => simp [normalize, ha]
    | cons b rest => simp [normalize, ha]
  | case4 a b rest hp ih =>
    obtain ⟨rfl, rfl⟩ := hp
    have hl : (a :: b :: rest).getLast? = some a ↔ rest.getLast? = some a := by
      cases rest with
      | nil => simp [hne.symm]
      | cons c rest => simp
    have hp : ∀ text, normalize a b (a :: b :: text) = b :: normalize a b text :=
      fun text => by rw [normalize, if_pos ⟨rfl, rfl⟩]
    simp only [hl]
    rw [cons_append, cons_append, hp, hp, ih]
    rfl
  | case5 a b rest hp ih =>
    rw [cons_append, cons_append, normalize_cons_cons_of_ne hp,
      normalize_cons_cons_of_ne hp, getLast?_cons_cons, ← cons_append, ih]
    rfl

def Framer.after (cr lf : α) (text : List α) : Framer α :=
  ⟨(cut lf (normalize cr lf text)).2, text.getLast? = some cr⟩

variable (hne : cr ≠ lf)
include hne

lemma getLast?_dropFeed (chunk : List α) :
    (dropFeed lf chunk).getLast? = some cr ↔ chunk.getLast? = some cr := by
  cases chunk with
  | nil => rfl
  | cons a rest =>
    rw [dropFeed]
    split_ifs with ha
    · subst ha
      cases rest with
      | nil => simp [hne.symm]
      | cons b rest => simp
    · rfl

lemma getLast?_append_eq_cr (text chunk : List α) :
    (text ++ chunk).getLast? = some cr ↔ (text.getLast? = some cr ∧ chunk = []) ∨
      (if text.getLast? = some cr then dropFeed lf chunk else chunk).getLast? = some cr := by
  have hd : (if text.getLast? = some cr then dropFeed lf chunk else chunk).getLast? = some cr ↔
      chunk.getLast? = some cr := by
    split_ifs
    · exact getLast?_dropFeed hne chunk
    · rfl
  rw [hd, getLast?_append]
  cases hc : chunk.getLast? with
  | none => simp [getLast?_eq_none_iff.mp hc]
  | some a =>
    have hn : chunk ≠ [] := fun h => by simp [h] at hc
    simp [hn]

/-- One more chunk completes the blocks that the longer text has more. -/
lemma Framer.feed_after (text chunk : List α) :
    (cut lf (normalize cr lf text)).1 ++ ((after cr lf text).feed cr lf chunk).1 =
        (cut lf (normalize cr lf (text ++ chunk))).1 ∧
      ((after cr lf text).feed cr lf chunk).2 = after cr lf (text ++ chunk) := by
  have hc := cut_append lf (normalize cr lf text)
    (normalize cr lf (if text.getLast? = some cr then dropFeed lf chunk else chunk))
  rw [← normalize_append hne] at hc
  have hs := getLast?_append_eq_cr hne text chunk
  simp only [after, feed, decide_eq_true_eq, hc, mk.injEq, true_and]
  simp only [hs, Bool.decide_or, Bool.decide_and]
  cases chunk <;> simp

lemma Framer.feedAll_after (chunks : List (List α)) (text : List α) :
    (cut lf (normalize cr lf text)).1 ++ ((after cr lf text).feedAll cr lf chunks).1 =
        (cut lf (normalize cr lf (text ++ chunks.flatten))).1 ∧
      ((after cr lf text).feedAll cr lf chunks).2 = after cr lf (text ++ chunks.flatten) := by
  induction chunks generalizing text with
  | nil => simp [feedAll]
  | cons chunk chunks ih =>
    obtain ⟨hb, hf⟩ := feed_after hne text chunk
    obtain ⟨ihblocks, ihframer⟩ := ih (text ++ chunk)
    rw [flatten_cons, ← append_assoc]
    refine ⟨?_, ?_⟩
    · rw [← ihblocks, ← hb, append_assoc]
      simp [feedAll, hf]
    · rw [← ihframer]
      simp [feedAll, hf]

/-- However a text comes in chunks, its blocks are the blocks of the whole text. -/
lemma Framer.feedAll_fresh (chunks : List (List α)) :
    (fresh.feedAll cr lf chunks).1 = (cut lf (normalize cr lf chunks.flatten)).1 := by
  have h := (feedAll_after hne chunks []).1
  rwa [nil_append] at h

end TokenliveGateway.BlockFraming
