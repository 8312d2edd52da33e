import Mathlib.Data.List.Infix

/-!
# Substring functions of Go's `strings` package

Strings are read as character lists, so that every function here evaluates in
the kernel. Only non-empty patterns are ever searched for.
-/
namespace TokenliveGateway.GoStrings
open List String

def hasPrefix (s front : String) : Bool := front.toList.isPrefixOf s.toList

def hasSuffix (s suffix : String) : Bool := suffix.toList.isSuffixOf s.toList

def contains (s substr : String) : Bool := s.toList.tails.any substr.toList.isPrefixOf

def trimSuffix (s suffix : String) : String :=
  if hasSuffix s suffix then String.ofList (s.toList.take (s.toList.length - suffix.toList.length))
  else s

/-- What follows the last occurrence of a pattern, `none` without occurrence. -/
def afterLast (pattern : List Char) : List Char → Option (List Char)
  | [] => none
  | c :: cs =>
    match afterLast pattern cs with
    | some rest => some rest
    | none => if pattern.isPrefixOf (c :: cs) then some ((c :: cs).drop pattern.length) else none

/-- `strings.SplitN(s, " ", 2)`: the text before and after the first space, or
`none` where there is no space and the split has one part. -/
def cutSpace (s : String) : Option (String × String) :=
  match s.toList.dropWhile (· ≠ ' ') with
  | [] => none
  | _ :: rest => some (String.ofList (s.toList.takeWhile (· ≠ ' ')), String.ofList rest)

/-- `strings.ToLower`, for comparison with ASCII words. -/
def toLower (s : String) : String := String.ofList (s.toList.map Char.toLower)

/-- `strings.ToUpper`, for comparison with ASCII words. -/
def toUpper (s : String) : String := String.ofList (s.toList.map Char.toUpper)

lemma isDigit_of_mem_toString {n : ℕ} {c : Char} (h : c ∈ (toString n).toList) :
    c.isDigit = true := by
  have hr : (toString n).toList = Nat.toDigits 10 n := toList_ofList
  rw [hr] at h
  exact Nat.isDigit_of_mem_toDigits (b := 10) (by decide) (by decide) h

lemma toString_nat_injective : Function.Injective (toString : ℕ → String) := by
  intro i j hi
  have hd : Nat.toDigits 10 i = Nat.toDigits 10 j := by
    have hr : ofList (Nat.toDigits 10 i) = ofList (Nat.toDigits 10 j) := hi
    simpa using congrArg toList hr
  have hv := congrArg (fun digits => Nat.ofDigitChars 10 digits 0) hd
  simpa using hv

/-- A text is cut at the first separator in one way. -/
lemma append_separator_inj {sep : Char} {front front' rest rest' : List Char}
    (hf : sep ∉ front) (hf' : sep ∉ front')
    (h : front ++ sep :: rest = front' ++ sep :: rest') : front = front' ∧ rest = rest' := by
  have ht : ∀ {front rest : List Char}, sep ∉ front →
      (front ++ sep :: rest).takeWhile (· ≠ sep) = front := by
    intro front rest hs
    rw [takeWhile_append_of_pos fun c hc => by simpa using ne_of_mem_of_not_mem hc hs]
    simp
  have hm := congrArg (takeWhile (· ≠ sep)) h
  rw [ht hf, ht hf'] at hm
  rw [hm, append_cancel_left_eq, cons.injEq] at h
  exact ⟨hm, h.2⟩

/-- Texts that are gathered part by part. -/
lemma join_filterMap_flatMap {α β : Type*} (p : α → List β) (g : β → Option String)
    (xs : List α) :
    join ((xs.flatMap p).filterMap g) =
      .join (xs.map fun a => .join ((p a).filterMap g)) := by
  induction xs with
  | nil => rfl
  | cons a rest ih =>
    rw [flatMap_cons, filterMap_append, join_append, ih, map_cons, join_cons]

lemma join_replicate_empty (n : ℕ) : join (replicate n "") = "" := by
  induction n with
  | zero => rfl
  | succ n ih => rw [replicate_succ, join_cons, ih, append_empty]

/-- One text among numbered items of which all others say nothing. -/
lemma join_zipIdx_ite {α : Type*} (f : α → String) {xs : List α} {n k : ℕ} {a : α}
    (ha : xs[k]? = some a) :
    join ((xs.zipIdx n).map fun item => if item.2 = n + k then f item.1 else "") =
      f a := by
  have hf : ∀ (xs : List α) (m j : ℕ), j < m →
      join ((xs.zipIdx m).map fun item => if item.2 = j then f item.1 else "") = "" := by
    intro xs
    induction xs with
    | nil => exact fun _ _ _ => rfl
    | cons b rest ih =>
      intro m j hj
      rw [zipIdx_cons, map_cons, join_cons, ih (m + 1) j (by omega),
        if_neg (by dsimp only; omega), append_empty]
  induction xs generalizing n k with
  | nil => simp at ha
  | cons b rest ih =>
    rw [zipIdx_cons, map_cons, join_cons]
    cases k with
    | zero =>
      obtain rfl : b = a := by simpa using ha
      rw [hf rest (n + 1) (n + 0) (by omega), if_pos (by simp), append_empty]
    | succ k =>
      have hr := ih (n := n + 1) (k := k) (by simpa using ha)
      rw [if_neg (by dsimp only; omega), empty_append]
      simpa [Nat.add_assoc, Nat.add_comm 1 k] using hr

end TokenliveGateway.GoStrings
