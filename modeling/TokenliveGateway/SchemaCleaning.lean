import TokenliveGateway.ResponsesChat

/-!
# Cleaning of tool schemas

`cleanJSONSchema` drops keywords that upstreams refuse, at every depth. It goes through the
map of the declared properties as through any schema, so a property with the name of such a
keyword is dropped with its schema.
-/
namespace TokenliveGateway
open List KeyedEntries

/-- The fields that are skipped. -/
def schemaDrops (removeAdditionalProps : Bool) (k : String) (v : Json) : Bool :=
  k ∈ ["$schema", "propertyNames", "minItems", "maxItems", "minLength", "maxLength", "default",
    "pattern"] || k = "additionalProperties" && removeAdditionalProps || k = "required" && v.isNull

def isObjectSchema (m : Fields) : Bool := m.str "type" = "object" || (m.lookup "properties").isSome

/-- The end of `cleanJSONSchema`. -/
def requireArray (res : Fields) : Fields :=
  if isObjectSchema res && (res.array? "required").isNone then res.put "required" (.array [])
  else res

mutual

/-- A value of a schema; arrays within arrays stay. -/
def cleanValue (removeAdditionalProps : Bool) : Json → Json
  | .object m => .object (requireArray (cleanFields removeAdditionalProps m))
  | .array items => .array (cleanItems removeAdditionalProps items)
  | v => v

def cleanItems (removeAdditionalProps : Bool) : List Json → List Json
  | [] => []
  | .object m :: rest =>
    .object (requireArray (cleanFields removeAdditionalProps m)) ::
      cleanItems removeAdditionalProps rest
  | item :: rest => item :: cleanItems removeAdditionalProps rest

/-- The loop of `cleanJSONSchema`. -/
def cleanFields (removeAdditionalProps : Bool) : List (String × Json) → List (String × Json)
  | [] => []
  | (k, v) :: rest =>
    if schemaDrops removeAdditionalProps k v then cleanFields removeAdditionalProps rest
    else (k, cleanValue removeAdditionalProps v) :: cleanFields removeAdditionalProps rest

end

def cleanJSONSchema (m : Fields) (removeAdditionalProps : Bool) : Fields :=
  requireArray (cleanFields removeAdditionalProps m)

variable {r : Bool} {k : String} {m : Fields}

lemma schemaDrops_cleanValue (v : Json) : schemaDrops r k (cleanValue r v) = schemaDrops r k v := by
  cases v <;> simp [schemaDrops, cleanValue, Json.isNull]

lemma lookup_cleanFields (h : ∀ v, m.lookup k = some v → schemaDrops r k v = false) :
    (cleanFields r m).lookup k = (m.lookup k).map (cleanValue r) := by
  induction m with
  | nil => rfl
  | cons p m ih =>
    obtain ⟨k', v⟩ := p
    by_cases hk : k = k'
    · subst hk
      simp [cleanFields, h v (by simp)]
    · rw [lookup_cons_of_ne hk] at h ⊢
      rw [cleanFields]
      split_ifs
      · exact ih h
      · rw [lookup_cons_of_ne hk, ih h]

lemma mem_cleanFields {p : String × Json} (h : p ∈ cleanFields r m) :
    ∃ q ∈ m, schemaDrops r p.1 q.2 = false ∧ p = (q.1, cleanValue r q.2) := by
  induction m with
  | nil => cases h
  | cons q m ih =>
    obtain ⟨k', v⟩ := q
    rw [cleanFields] at h
    split_ifs at h with hd
    · obtain ⟨q, hq, hp⟩ := ih h
      exact ⟨q, mem_cons_of_mem _ hq, hp⟩
    · rcases mem_cons.mp h with rfl | h
      · exact ⟨(k', v), mem_cons_self, eq_false_of_ne_true hd, rfl⟩
      · obtain ⟨q, hq, hp⟩ := ih h
        exact ⟨q, mem_cons_of_mem _ hq, hp⟩

lemma isObjectSchema_cleanFields : isObjectSchema (cleanFields r m) = isObjectSchema m := by
  have ht := lookup_cleanFields (r := r) (k := "type") (m := m) (by simp [schemaDrops])
  have hp := lookup_cleanFields (r := r) (k := "properties") (m := m) (by simp [schemaDrops])
  unfold isObjectSchema Fields.str
  rw [ht, hp, Option.isSome_map]
  cases m.lookup "type" with
  | none => rfl
  | some v => cases v <;> rfl

lemma lookup_requireArray (h : k ≠ "required") (m : Fields) :
    (requireArray m).lookup k = m.lookup k := by
  unfold requireArray
  split_ifs
  · exact m.lookup_put_of_ne _ h
  · rfl

lemma requireArray_of_array {xs : List Json} (h : m.lookup "required" = some (.array xs)) :
    requireArray m = m := by
  simp [requireArray, Fields.array?, h]

lemma required_of_isObjectSchema (h : isObjectSchema m = true) :
    ∃ xs, (requireArray m).lookup "required" = some (.array xs) := by
  unfold requireArray
  rw [h, Bool.true_and]
  split_ifs with hn
  · exact ⟨[], by simp [Fields.put]⟩
  · cases hr : m.array? "required" with
    | none => simp [hr] at hn
    | some xs =>
      refine ⟨xs, ?_⟩
      unfold Fields.array? at hr
      split at hr <;> simp_all

/-- What cleaning leaves as it is. -/
def Cleaned (r : Bool) (m : Fields) : Prop :=
  ∀ p ∈ m, schemaDrops r p.1 p.2 = false ∧ cleanValue r p.2 = p.2

lemma Cleaned.eq (h : Cleaned r m) : cleanFields r m = m := by
  induction m with
  | nil => rfl
  | cons p m ih =>
    obtain ⟨hd, hv⟩ := h p mem_cons_self
    have hm := ih fun q hq => h q (mem_cons_of_mem _ hq)
    simp [cleanFields, hd, hv, hm]

lemma Cleaned.requireArray (h : Cleaned r m) : Cleaned r (requireArray m) := by
  unfold TokenliveGateway.requireArray
  split_ifs
  · intro p hp
    rcases mem_cons.mp hp with rfl | hp
    · exact ⟨by simp [schemaDrops, Json.isNull], rfl⟩
    · exact h p (mem_filter.mp hp).1
  · exact h

lemma requireArray_idem (m : Fields) : requireArray (requireArray m) = requireArray m := by
  by_cases ho : isObjectSchema m = true
  · obtain ⟨xs, hi⟩ := required_of_isObjectSchema ho
    exact requireArray_of_array hi
  · have he : requireArray m = m := by simp [requireArray, ho]
    rw [he, he]

lemma cleaned_cleanFields (h : ∀ p ∈ m, cleanValue r (cleanValue r p.2) = cleanValue r p.2) :
    Cleaned r (cleanFields r m) := by
  intro p hp
  obtain ⟨q, hq, hd, rfl⟩ := mem_cleanFields hp
  rw [schemaDrops_cleanValue]
  exact ⟨hd, h q hq⟩

lemma cleanItems_idem {items : List Json}
    (h : ∀ item ∈ items, cleanValue r (cleanValue r item) = cleanValue r item) :
    cleanItems r (cleanItems r items) = cleanItems r items := by
  induction items with
  | nil => rfl
  | cons item items ih =>
    have hr := ih fun i hi => h i (mem_cons_of_mem _ hi)
    have ht := h item mem_cons_self
    cases item <;> simp_all [cleanItems, cleanValue]

lemma cleanValue_idem (v : Json) : cleanValue r (cleanValue r v) = cleanValue r v := by
  cases v with
  | object m =>
    have hc : Cleaned r (cleanFields r m) := by
      refine cleaned_cleanFields fun p hp => ?_
      have hv : sizeOf p.2 < sizeOf p := by cases p; simp only [Prod.mk.sizeOf_spec]; omega
      have hl := hv.trans (sizeOf_lt_of_mem hp)
      exact cleanValue_idem p.2
    refine congrArg Json.object ?_
    rw [hc.requireArray.eq, requireArray_idem]
  | array xs =>
    refine congrArg Json.array (cleanItems_idem fun item hi => ?_)
    have hl := sizeOf_lt_of_mem hi
    exact cleanValue_idem item
  | _ => rfl
termination_by sizeOf v
decreasing_by all_goals simp only [Json.object.sizeOf_spec, Json.array.sizeOf_spec]; omega

lemma str_mem_cleanItems {n : String} {names : List Json} (h : .str n ∈ names) :
    .str n ∈ cleanItems r names := by
  induction names with
  | nil => exact h
  | cons item names ih =>
    rcases mem_cons.mp h with rfl | hn
    · exact mem_cons_self
    · cases item <;> exact mem_cons_of_mem _ (ih hn)

/-- The property keeps its schema: no keyword has its name, and it is not taken for the list of
required names. -/
def KeptProperty (removeAdditionalProps : Bool) (props : Fields) (name : String) (schema : Json) :
    Prop :=
  schemaDrops removeAdditionalProps name schema = false ∧
    (name = "required" → isObjectSchema props = true → ∃ items, schema = .array items)

lemma lookup_cleanJSONSchema_iff {props : Fields} {name : String} {schema : Json}
    (h : props.lookup name = some schema) :
    (cleanJSONSchema props r).lookup name = some (cleanValue r schema) ↔
      KeptProperty r props name schema := by
  unfold cleanJSONSchema
  constructor
  · intro hl
    have hc : Cleaned r (cleanFields r props) := cleaned_cleanFields fun p _ => cleanValue_idem p.2
    have hd := (hc.requireArray _ (mem_of_lookup hl)).1
    rw [schemaDrops_cleanValue] at hd
    refine ⟨hd, ?_⟩
    rintro rfl ho
    rw [← isObjectSchema_cleanFields (r := r)] at ho
    obtain ⟨xs, hi⟩ := required_of_isObjectSchema ho
    rw [hl, Option.some.injEq] at hi
    cases schema with
    | array xs => exact ⟨xs, rfl⟩
    | _ => cases hi
  · rintro ⟨hd, hr⟩
    have hf : (cleanFields r props).lookup name = some (cleanValue r schema) := by
      rw [lookup_cleanFields fun v hv => ?_, h, Option.map_some]
      rw [h, Option.some.injEq] at hv
      exact hv ▸ hd
    by_cases hn : name = "required"
    · subst hn
      by_cases ho : isObjectSchema props = true
      · obtain ⟨xs, rfl⟩ := hr rfl ho
        rwa [requireArray_of_array hf]
      · have he : requireArray (cleanFields r props) = cleanFields r props := by
          simp [requireArray, isObjectSchema_cleanFields, ho]
        rwa [he]
    · rwa [lookup_requireArray hn]

/-- From a schema to one in it: the object under a key, or an object in the array under a key.
Arrays within arrays hold no schemas. -/
inductive SchemaStep where
  | field (key : String)
  | item (key : String) (index : ℕ)

namespace SchemaStep

def key : SchemaStep → String
  | field key | item key _ => key

/-- The object that the step finds in the value of its key. -/
def target : SchemaStep → Json → Option Fields
  | field _, .object m => some m
  | item _ index, .array items => match items[index]? with
    | some (.object m) => some m
    | _ => none
  | _, _ => none

lemma cleanItems_getElem? {items : List Json} {i : ℕ} (h : items[i]? = some (.object m)) :
    (cleanItems r items)[i]? = some (.object (cleanJSONSchema m r)) := by
  induction items generalizing i with
  | nil => simp at h
  | cons item items ih =>
    cases i with
    | zero =>
      obtain rfl : item = .object m := by simpa using h
      rfl
    | succ i => cases item <;> exact ih (by simpa using h)

lemma target_cleanValue {s : SchemaStep} {v : Json} (h : s.target v = some m) :
    s.target (cleanValue r v) = some (cleanJSONSchema m r) := by
  unfold target at h
  split at h
  · obtain rfl := Option.some.inj h
    rfl
  · split at h
    next hi =>
      obtain rfl := Option.some.inj h
      simp [cleanValue, target, cleanItems_getElem? hi]
    · cases h
  · cases h

/-- What is not kept is gone, or an array takes the place of an object. -/
lemma target_of_not_kept {s : SchemaStep} {v : Json} {m' : Fields}
    (hv : m.lookup s.key = some v) (h : s.target v = some m') (hk : ¬KeptProperty r m s.key v) :
    ((cleanJSONSchema m r).lookup s.key).bind s.target = none := by
  have hn : v.isNull = false := by
    cases v <;> simp [target, Json.isNull] at h ⊢
  by_cases hd : schemaDrops r s.key v = true
  · have hr : s.key ≠ "required" := by
      intro he
      simp [schemaDrops, he, hn] at hd
    have hf : (cleanFields r m).lookup s.key = none := by
      by_contra hne
      obtain ⟨v', hv'⟩ := Option.ne_none_iff_exists'.mp hne
      obtain ⟨q, -, hq, -⟩ := mem_cleanFields (mem_of_lookup hv')
      simp only [schemaDrops, hr, decide_false, Bool.false_and, Bool.or_false] at hd hq
      exact absurd (hd.symm.trans hq) (by decide)
    rw [cleanJSONSchema, lookup_requireArray hr, hf, Option.bind_none]
  · have hr : s.key = "required" ∧ isObjectSchema m = true ∧ ∀ items, v ≠ .array items := by
      by_contra hne
      refine hk ⟨eq_false_of_ne_true hd, fun he ho => ?_⟩
      by_contra hi
      exact hne ⟨he, ho, fun items hv => hi ⟨items, hv⟩⟩
    obtain ⟨he, ho, hi⟩ := hr
    rw [← isObjectSchema_cleanFields (r := r)] at ho
    obtain ⟨xs, hxs⟩ := required_of_isObjectSchema ho
    rw [cleanJSONSchema, he, hxs, Option.bind_some]
    cases s with
    | field => rfl
    | item => cases v <;> simp_all [target]

end SchemaStep

/-- The schema at a path. -/
def Fields.descend (m : Fields) : List SchemaStep → Option Fields
  | [] => some m
  | s :: path => ((m.lookup s.key).bind s.target).bind fun m' => Fields.descend m' path

/-- Every value on the path is kept like a property. -/
def KeptPath (removeAdditionalProps : Bool) (m : Fields) : List SchemaStep → Prop
  | [] => True
  | s :: path => ∀ v, m.lookup s.key = some v → ∀ m', s.target v = some m' →
      KeptProperty removeAdditionalProps m s.key v ∧ KeptPath removeAdditionalProps m' path

lemma Fields.descend_append (m : Fields) (path path' : List SchemaStep) :
    m.descend (path ++ path') = (m.descend path).bind fun m' => m'.descend path' := by
  induction path generalizing m with
  | nil => rfl
  | cons s path ih => simp [Fields.descend, ih, Option.bind_assoc]

lemma descend_cleanJSONSchema {path : List SchemaStep} {m' : Fields}
    (h : m.descend path = some m') :
    (KeptPath r m path → (cleanJSONSchema m r).descend path = some (cleanJSONSchema m' r)) ∧
      (¬KeptPath r m path → (cleanJSONSchema m r).descend path = none) := by
  induction path generalizing m with
  | nil =>
    obtain rfl := Option.some.inj h
    exact ⟨fun _ => rfl, fun hk => absurd trivial hk⟩
  | cons s path ih =>
    simp only [Fields.descend, Option.bind_eq_some_iff] at h
    obtain ⟨m₁, ⟨v, hv, ht⟩, hm⟩ := h
    have hs : KeptPath r m (s :: path) ↔ KeptProperty r m s.key v ∧ KeptPath r m₁ path := by
      simp [KeptPath, hv, ht]
    rw [hs, Fields.descend]
    by_cases hk : KeptProperty r m s.key v
    · rw [(lookup_cleanJSONSchema_iff hv).mpr hk, Option.bind_some,
        SchemaStep.target_cleanValue ht, Option.bind_some]
      simpa [hk] using ih hm
    · rw [SchemaStep.target_of_not_kept hv ht hk]
      simp [hk]

/-- Of every schema, at every depth: a schema is found cleaned where it was exactly if every
value on the way to it is kept; a property that it declares keeps its cleaned schema exactly
if besides the property is not named like a keyword that is dropped, or taken for the list of
required names; a required name stays exactly if the schema does. Cleaning twice is cleaning
once. -/
theorem schema_cleaning (m : Fields) (removeAdditionalProps : Bool) :
    (∀ path m', m.descend path = some m' →
      ((cleanJSONSchema m removeAdditionalProps).descend path =
          some (cleanJSONSchema m' removeAdditionalProps) ↔
        KeptPath removeAdditionalProps m path) ∧
      (∀ props name schema, m'.lookup "properties" = some (.object props) →
        props.lookup name = some schema →
        (((cleanJSONSchema m removeAdditionalProps).descend (path ++ [.field "properties"])).bind
            (·.lookup name) = some (cleanValue removeAdditionalProps schema) ↔
          KeptPath removeAdditionalProps m path ∧
            KeptProperty removeAdditionalProps props name schema)) ∧
      ∀ names n, m'.lookup "required" = some (.array names) → .str n ∈ names →
        ((∃ names', ((cleanJSONSchema m removeAdditionalProps).descend path).bind
            (·.lookup "required") = some (.array names') ∧ .str n ∈ names') ↔
          KeptPath removeAdditionalProps m path)) ∧
      cleanJSONSchema (cleanJSONSchema m removeAdditionalProps) removeAdditionalProps =
        cleanJSONSchema m removeAdditionalProps := by
  refine ⟨fun path m' hm => ?_, Json.object.inj (cleanValue_idem (.object m))⟩
  obtain ⟨hk, hg⟩ := descend_cleanJSONSchema (r := removeAdditionalProps) hm
  by_cases h : KeptPath removeAdditionalProps m path
  · refine ⟨iff_of_true (hk h) h, fun props name schema hp hn => ?_, fun names n hn hs => ?_⟩
    · have hl := (lookup_cleanJSONSchema_iff hp).mpr
        (⟨by simp [schemaDrops], by simp⟩ : KeptProperty removeAdditionalProps _ _ _)
      have ha : (cleanJSONSchema m' removeAdditionalProps).descend [.field "properties"] =
          some (cleanJSONSchema props removeAdditionalProps) := by
        simp only [Fields.descend, SchemaStep.key, hl]
        rfl
      rw [Fields.descend_append, hk h, Option.bind_some, ha, Option.bind_some,
        lookup_cleanJSONSchema_iff hn, and_iff_right h]
    · refine iff_of_true ⟨cleanItems removeAdditionalProps names, ?_, str_mem_cleanItems hs⟩ h
      rw [hk h, Option.bind_some]
      refine (lookup_cleanJSONSchema_iff hn).mpr ⟨by simp [schemaDrops, Json.isNull], ?_⟩
      exact fun _ _ => ⟨names, rfl⟩
  · refine ⟨by simp [hg h, h], fun props name schema _ _ => ?_, fun names n _ _ => ?_⟩
    · simp [Fields.descend_append, hg h, h]
    · simp [hg h, h]

/-- A property named `default` is lost. -/
theorem property_lost : cleanJSONSchema [("type", .str "object"), ("properties", .object
        [("city", .object [("type", .str "string")]),
          ("default", .object [("type", .str "string")])])] false =
      [("required", .array []), ("type", .str "object"), ("properties", .object
        [("city", .object [("type", .str "string")])])] := by
  rfl

end TokenliveGateway
