import Mathlib.Data.List.Basic

/-!
# HTTP requests as the gateway reads them

The part of Go's `net/http` that the gateway relies on. A header is a map from
canonical keys to value lists; an absent key and an empty list are the same
thing to every reader, so the map is total. `get` and `set` canonicalise the
key they are given, as `Header.Get` and `Header.Set` do.
-/
namespace TokenliveGateway.HttpRequest

/-- A byte of a header field name that RFC 7230 calls a token character. -/
def validHeaderFieldChar (c : Char) : Bool :=
  c.isAlphanum || "!#$%&*+-.^_|~".toList.contains c || c == Char.ofNat 39 || c == Char.ofNat 96

/-- The letter-case loop of `canonicalMIMEHeaderKey`; `upper` says whether the
next letter starts a dash-separated word. -/
def canonicalChars : Bool → List Char → List Char
  | _, [] => []
  | upper, c :: cs =>
    let c' := if upper then c.toUpper else c.toLower
    c' :: canonicalChars (c' == '-') cs

/-- `textproto.CanonicalMIMEHeaderKey`: a key with an invalid byte is kept. -/
def canonicalMIMEHeaderKey (key : String) : String :=
  if key.toList.all validHeaderFieldChar then String.ofList (canonicalChars true key.toList)
  else key

/-- `http.Header`, keyed by the stored spelling. -/
abbrev Header := String → List String

namespace Header

/-- `Header.Get`: the first value under the canonical key, or the empty string. -/
def get (h : Header) (key : String) : String :=
  (h (canonicalMIMEHeaderKey key)).headD ""

/-- `Header.Set`: replaces every value under the canonical key. -/
def set (h : Header) (key value : String) : Header :=
  Function.update h (canonicalMIMEHeaderKey key) [value]

variable {key key' : String}

/-- Spellings with one canonical form read the same value. -/
lemma get_congr (h : Header)
    (hk : canonicalMIMEHeaderKey key = canonicalMIMEHeaderKey key') : h.get key = h.get key' := by
  simp [get, hk]

lemma get_set_self (h : Header) (value : String)
    (hk : canonicalMIMEHeaderKey key = canonicalMIMEHeaderKey key') :
    (h.set key value).get key' = value := by
  simp [get, set, hk]

lemma get_set_other (h : Header) (val : String)
    (hk : canonicalMIMEHeaderKey key' ≠ canonicalMIMEHeaderKey key) :
    (h.set key val).get key' = h.get key' := by
  simp [get, set, Function.update_of_ne hk]

end Header

/-- `url.Values`; as for headers, absent and empty coincide. -/
abbrev Values := String → List String

def Values.get (v : Values) (key : String) : String := (v key).headD ""

/-- The parts of `*http.Request` the modelled code reads. `cookie` is what
`Request.Cookie` finds; the context values are those that some handler put there
with `context.WithValue`. -/
structure Request where
  header : Header := fun _ => []
  query : Values := fun _ => []
  path : String := ""
  cookie : String → Option String := fun _ => none
  contextValue : String → Option String := fun _ => none

end TokenliveGateway.HttpRequest
