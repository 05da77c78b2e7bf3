import TypeHints.Proofs.AliasValues
import TypeHints.Proofs.Surroundings

/-!
# How coercion ends

A raw hint is an array of raw hints or a leaf. Every leaf is judged on its own, and nothing but the
leaf decides, neither the state nor the leaves around it:

* a leaf is supported (`Value.isSupported`) if it is a text, a class that can stand for a hint, a
  hint, or an object that names a kind of hint; such an object is taken for a hint whatever else it
  holds (`Value.readHint_isSome`);
* with any other leaf there is something wrong (`Value.fault?`): the report that it is not supported
  or, where it has no text that the report could show, a crash.

Coercion looks at the leaves from left to right. It ends in the first crash among them, else in the
first failure of another kind, else in a hint (`coerce_outcome`). A raw hint that is to be interned
needs a key besides; without one it ends in a crash of its own (`coerceKeyed_outcome`).

A crash is no report. So a failure is reported unless a leaf that is refused has no text
(`Value.Unreportable`) or nothing is refused and there is no key (`Value.Reportable`); of an alias
that throws, what it throws needs a text (`failures_reported_iff`).
-/

namespace TypeHints

open Attempt

/-! ### Objects that stand for hints -/

section Written

variable {ε : Type} (cs : Classes)

/-- There is a hint of every kind, whatever the parts. -/
theorem Parts.isSome_ofKind (ps : Parts) (l : Label) (kind : String) :
    (ps.ofKind cs l kind).isSome = Hint.kindNames.contains kind := by
  unfold ofKind
  split
  all_goals try rfl
  -- no kind has this name
  simp_all [Hint.kindNames]

namespace Value

/-- Reading an object's parts as a hint puts them together under the next label. -/
theorem readParts_apply (ps : Parts) (s : Store) :
    ∃ s', (readParts cs ps : Attempt Store ε (Option Hint)) s =
      (.ok (ps.assemble? cs s.next), s') := by
  unfold readParts
  rw [bind_apply_ok (show (Store.fresh : Attempt Store ε Label) s = (.ok s.next, _) from rfl)]
  cases ps.assemble? cs s.next <;> exact ⟨_, rfl⟩

mutual

/-- Reading a value does not fail. -/
theorem reading_ok : ∀ (v : Value) (s : Store), ∃ r s',
    (reading cs v : Attempt Store ε Reading) s = (.ok r, s')
  | .array vs, s => by
    obtain ⟨rs, s', hrs⟩ := readings_ok vs s
    exact ⟨_, s', bind_apply_ok hrs⟩
  | .object ms, s | .bare ms, s => by
    obtain ⟨ps, s₁, hps⟩ := parts_ok ms s
    obtain ⟨s₂, hread⟩ := readParts_apply (ε := ε) cs ps s₁
    exact ⟨_, s₂, (bind_apply_ok hps).trans (bind_apply_ok hread)⟩
  | .hint _, s | .undefined, s | .null, s | .bool _, s | .number _, s | .bigint _, s | .string _, s
  | .symbol _, s | .ofClass _, s | .prototype _, s | .instance _, s | .function _, s | .boxed _, s
  | .cell _, s => ⟨_, s, rfl⟩

theorem readings_ok : ∀ (vs : List Value) (s : Store), ∃ rs s',
    (readings cs vs : Attempt Store ε (List Reading)) s = (.ok rs, s')
  | [], s => ⟨[], s, rfl⟩
  | v :: vs, s => by
    obtain ⟨r, s₁, hr⟩ := reading_ok v s
    obtain ⟨rs, s₂, hrs⟩ := readings_ok vs s₁
    exact ⟨r :: rs, s₂, (bind_apply_ok hr).trans (bind_apply_ok hrs)⟩

theorem parts_ok : ∀ (ms : List (String × Value)) (s : Store), ∃ ps s',
    (parts cs ms : Attempt Store ε Parts) s = (.ok ps, s')
  | [], s => ⟨[], s, rfl⟩
  | (name, v) :: ms, s => by
    obtain ⟨r, s₁, hr⟩ := reading_ok v s
    obtain ⟨ps, s₂, hps⟩ := parts_ok ms s₁
    exact ⟨(name, r) :: ps, s₂, (bind_apply_ok hr).trans (bind_apply_ok hps)⟩

end

/-- An object stands for a hint if it names a kind of hint. -/
theorem readHint_of_parts {v : Value} {ms : List (String × Value)} (hv : v.written? = some ms)
    (hreading : ∀ s : Store, (reading cs v : Attempt Store ε Reading) s =
      (do return ⟨v, ← readParts cs (← parts cs ms), none⟩ : Attempt Store ε Reading) s)
    (s : Store) : ∃ h? s', (readHint cs v : Attempt Store ε (Option Hint)) s = (.ok h?, s') ∧
      h?.isSome = v.isHint := by
  obtain ⟨ps, s₁, hps⟩ := parts_ok (ε := ε) cs ms s
  obtain ⟨s₂, hread⟩ := readParts_apply (ε := ε) cs ps s₁
  refine ⟨_, s₂, bind_apply_ok ((hreading s).trans ((bind_apply_ok hps).trans
    (bind_apply_ok hread))), ?_⟩
  have hkind : ps.value "kind" = (ms.lookup "kind").getD .undefined := by
    rw [Parts.value, ← Parts.lookup_map, values_parts hps]
  rw [Parts.assemble?, Parts.text?, hkind]
  -- both sides ask for the text that is the kind
  cases hlookup : ms.lookup "kind" with
  | none => cases v <;> cases hv <;> simp [isHint, written?, hlookup]
  | some u => cases u <;> cases v <;> cases hv <;>
      simp [isHint, written?, hlookup, Parts.isSome_ofKind]

/-- What counts as a hint is read as one, and nothing else is, in every state. -/
theorem readHint_isSome (v : Value) (s : Store) :
    ∃ h? s', (readHint cs v : Attempt Store ε (Option Hint)) s = (.ok h?, s') ∧
      h?.isSome = v.isHint := by
  cases v with
  | object ms => exact readHint_of_parts cs (v := .object ms) rfl (fun _ ↦ rfl) s
  | bare ms => exact readHint_of_parts cs (v := .bare ms) rfl (fun _ ↦ rfl) s
  | array vs =>
    obtain ⟨rs, s', hrs⟩ := readings_ok (ε := ε) cs vs s
    have hreading : (reading cs (.array vs) : Attempt Store ε Reading) s =
        (.ok ⟨.array vs, none, some (rs.map Reading.listed)⟩, s') := bind_apply_ok hrs
    exact ⟨none, s', bind_apply_ok hreading, rfl⟩
  | _ => exact ⟨_, s, rfl, rfl⟩

end Value

end Written

/-! ### Leaves -/

namespace Value

mutual

/-- The elements of an array that are no arrays, at any depth, from left to right; any other value is
its own leaf. -/
def leaves : Value → List Value
  | .array vs => leavesAll vs
  | v => [v]

/-- The leaves of values, in order. -/
def leavesAll : List Value → List Value
  | [] => []
  | v :: vs => leaves v ++ leavesAll vs

end

/-- Whether a leaf is a raw hint: a text, a class that can stand for a hint, or what counts as a
hint. -/
def isSupported : Value → Bool
  | .string _ => true
  | v => v.hintClass?.isSome || v.isHint

/-- What is wrong with a leaf. -/
def fault? (w : World) (v : Value) : Option Failure :=
  if v.isSupported then none else some (unsupported w v)

end Value

/-- The failure that an outcome is. -/
def failure? {ε α : Type} : Except ε α → Option ε
  | .ok _ => none
  | .error e => some e

namespace Failure

/-- Whether an operation breaks off without a report. -/
def isCrash : Failure → Bool
  | .cause _ => false
  | .crash _ => true

/-- The failure that counts among several ones: the first crash, else the first of all. -/
def foremost (fs : List Failure) : Option Failure := (fs.find? isCrash).or fs.head?

theorem foremost_eq_none {fs : List Failure} : foremost fs = none ↔ fs = [] := by
  cases fs with
  | nil => simp [foremost]
  | cons f fs => simp [foremost]

/-- A crash counts exactly if it is the first one. -/
theorem foremost_eq_crash {fs : List Failure} {c : Crash} :
    foremost fs = some (.crash c) ↔ fs.find? isCrash = some (.crash c) := by
  unfold foremost
  cases hf : fs.find? isCrash with
  | some g => rfl
  | none =>
    refine iff_of_false (fun hc ↦ ?_) nofun
    exact List.find?_eq_none.mp hf _ (List.mem_of_head? hc) rfl

/-- Another failure counts exactly if it comes first and there is no crash. -/
theorem foremost_eq_cause {fs : List Failure} {c : Cause} :
    foremost fs = some (.cause c) ↔ fs.find? isCrash = none ∧ fs.head? = some (.cause c) := by
  unfold foremost
  cases hf : fs.find? isCrash with
  | some g =>
    refine iff_of_false (fun hc ↦ ?_) nofun
    cases hc
    exact absurd (List.find?_some hf) nofun
  | none => simp

end Failure

/-! ### The outcome of a coercion -/

section Outcome

variable (w : World)

/-- What is wrong with the leaves of a value, in order. -/
def Value.faults (v : Value) : List Failure := v.leaves.filterMap (Value.fault? w)

@[inherit_doc Value.faults]
def Value.faultsAll (vs : List Value) : List Failure :=
  (Value.leavesAll vs).filterMap (Value.fault? w)

theorem Value.faultsAll_cons (v : Value) (vs : List Value) :
    Value.faultsAll w (v :: vs) = v.faults w ++ Value.faultsAll w vs :=
  List.filterMap_append

/-- A value that is no array is coerced, or it fails by its fault. -/
theorem coerce_leaf {v : Value} (hv : ∀ vs, v ≠ .array vs) (s : Store) :
    failure? (coerce w v s).1 = Failure.foremost (v.faults w) := by
  have hfault : Failure.foremost (v.faults w) = v.fault? w := by
    rw [Value.faults, Value.leaves.eq_2 v hv, List.filterMap_cons]
    cases v.fault? w with
    | none => rfl
    | some f => cases f <;> rfl
  rw [hfault]
  by_cases htext : ∃ t, v = .string t
  · obtain ⟨t, rfl⟩ := htext
    rfl
  · have hsupported : v.isSupported = (v.hintClass?.isSome || v.isHint) :=
      Value.isSupported.eq_2 v fun t ht ↦ htext ⟨t, ht⟩
    rw [coerce.eq_3 w v (fun t ht ↦ htext ⟨t, ht⟩) hv, Value.fault?, hsupported]
    cases hid : v.hintClass? with
    | some id =>
      obtain ⟨s', hc, -⟩ := Store.classHintOf_apply Failure w.classes id s
      dsimp only
      rw [bind_apply_ok hc]
      rfl
    | none =>
      obtain ⟨h?, s', hread, hsome⟩ := v.readHint_isSome w.classes s
      dsimp only
      rw [bind_apply_ok hread, ← hsome]
      cases h? <;> rfl

mutual

/-- A raw hint is coerced, or it fails by the foremost of what is wrong with its leaves. -/
theorem coerce_outcome (v : Value) (s : Store) :
    failure? (coerce w v s).1 = Failure.foremost (v.faults w) := by
  match v with
  | .array vs =>
    have hvs := coerceAll_outcome vs s
    have hfaults : (Value.array vs).faults w = Value.faultsAll w vs := rfl
    rw [coerce, hfaults, Failure.foremost, bind_apply]
    rcases hr : coerceAll w vs s with ⟨f | rs, s'⟩ <;> rw [hr] at hvs <;> dsimp only at hvs ⊢
    · rw [hvs]
      rfl
    · rw [hvs.1, ← hvs.2]
      cases hc : collect rs <;> rfl
  | .undefined | .null | .bool _ | .number _ | .bigint _ | .string _ | .symbol _ | .ofClass _
  | .prototype _ | .instance _ | .function _ | .boxed _ | .cell _ | .object _ | .bare _ | .hint _ =>
    exact coerce_leaf w (by rintro _ ⟨⟩) s

/-- Raw hints end in the first crash among their leaves. Without one, the first failure among their
outcomes is the first thing that is wrong with a leaf. -/
theorem coerceAll_outcome (vs : List Value) (s : Store) :
    match (coerceAll w vs s).1 with
    | .error f => (Value.faultsAll w vs).find? Failure.isCrash = some f
    | .ok rs => (Value.faultsAll w vs).find? Failure.isCrash = none ∧
      (failure? (collect rs)).map Failure.cause = (Value.faultsAll w vs).head? := by
  match vs with
  | [] => exact ⟨rfl, rfl⟩
  | v :: vs =>
    have hv := coerce_outcome v s
    rw [Value.faultsAll_cons, List.find?_append, List.head?_append]
    simp only [coerceAll]
    rcases hr : coerce w v s with ⟨(c | c) | h, s'⟩ <;> rw [hr] at hv
    · have hvs := coerceAll_outcome vs s'
      obtain ⟨hcrash, hhead⟩ := Failure.foremost_eq_cause.mp hv.symm
      rw [hcrash, hhead]
      rcases hrs : coerceAll w vs s' with ⟨f | rs, s''⟩ <;> rw [hrs] at hvs <;>
        simp only [run, hrs, Prod.map, Except.map]
      · simpa using hvs
      · exact ⟨by simpa using hvs.1, rfl⟩
    · dsimp only
      rw [Failure.foremost_eq_crash.mp hv.symm]
      rfl
    · have hvs := coerceAll_outcome vs s'
      rw [Failure.foremost_eq_none.mp hv.symm]
      rcases hrs : coerceAll w vs s' with ⟨f | rs, s''⟩ <;> rw [hrs] at hvs <;>
        simp only [run, hrs, Prod.map, Except.map]
      · simpa using hvs
      · refine ⟨by simpa using hvs.1, ?_⟩
        rw [List.head?_nil, Option.none_or, ← hvs.2, collect]
        cases collect rs <;> rfl

end

/-- A raw hint that is to be interned fails by its leaves, else by its key. -/
theorem coerceKeyed_outcome (v : Value) (s : Store) :
    failure? (coerceKeyed w v s).1 = (Failure.foremost (v.faults w)).or
      ((v.keyFault? w.classes).map fun message ↦ .crash (.unkeyed message)) := by
  rw [← coerce_outcome w v s, coerceKeyed, bind_apply]
  rcases coerce w v s with ⟨f | h, s'⟩
  · rfl
  · cases v.keyFault? w.classes <;> rfl

/-- Once there is a key, interning does not fail. -/
theorem failure?_coerceRoot (raw : Value) (r : Run) :
    failure? (Run.coerceRoot w raw r).1 = failure? (coerceKeyed w raw r.store).1 := by
  unfold Run.coerceRoot
  rw [bind_apply, Run.onStore]
  rcases coerceKeyed w raw r.store with ⟨f | h, s⟩ <;> rfl

end Outcome

/-! ### Recipes -/

mutual

/-- Building a hint does not fail. -/
theorem HintRecipe.build_ok (cs : Classes) (r : HintRecipe) (s : Store) :
    ∃ h s', (r.build cs : Attempt Store Failure Hint) s = (.ok h, s') := by
  match r with
  | .existing h => exact ⟨h, s, rfl⟩
  | .ofClass id =>
    obtain ⟨s', hc, -⟩ := Store.classHintOf_apply Failure cs id s
    exact ⟨_, s', bind_apply_ok hc⟩
  | .literal v => exact ⟨_, _, rfl⟩
  | .union rs | .tuple rs | .subscripted o rs =>
    obtain ⟨hs, s', hh⟩ := HintRecipe.buildAll_ok cs rs s
    exact ⟨_, _, bind_apply_ok hh⟩
  | .deferred t => exact ⟨_, _, rfl⟩

theorem HintRecipe.buildAll_ok (cs : Classes) (rs : List HintRecipe) (s : Store) :
    ∃ hs s', (HintRecipe.buildAll cs rs : Attempt Store Failure (List Hint)) s = (.ok hs, s') := by
  match rs with
  | [] => exact ⟨[], s, rfl⟩
  | r :: rs =>
    obtain ⟨h, s₁, hh⟩ := HintRecipe.build_ok cs r s
    obtain ⟨hs, s₂, hhs⟩ := HintRecipe.buildAll_ok cs rs s₁
    exact ⟨h :: hs, s₂, by rw [HintRecipe.buildAll, bind_apply_ok hh, bind_apply_ok hhs]; rfl⟩

end

mutual

/-- Building a raw hint does not fail. -/
theorem Recipe.build_ok (cs : Classes) (r : Recipe) (s : Store) :
    ∃ v s', (r.build cs : Attempt Store Failure Value) s = (.ok v, s') := by
  match r with
  | .value v => exact ⟨v, s, rfl⟩
  | .list rs =>
    obtain ⟨vs, s', hv⟩ := Recipe.buildAll_ok cs rs s
    exact ⟨_, s', bind_apply_ok hv⟩
  | .hint r =>
    obtain ⟨h, s', hh⟩ := HintRecipe.build_ok cs r s
    exact ⟨_, s', bind_apply_ok hh⟩

theorem Recipe.buildAll_ok (cs : Classes) (rs : List Recipe) (s : Store) :
    ∃ vs s', (Recipe.buildAll cs rs : Attempt Store Failure (List Value)) s = (.ok vs, s') := by
  match rs with
  | [] => exact ⟨[], s, rfl⟩
  | r :: rs =>
    obtain ⟨v, s₁, hv⟩ := Recipe.build_ok cs r s
    obtain ⟨vs, s₂, hvs⟩ := Recipe.buildAll_ok cs rs s₁
    exact ⟨v :: vs, s₂, by rw [Recipe.buildAll, bind_apply_ok hv, bind_apply_ok hvs]; rfl⟩

end

/-! ### What is reported -/

/-- The failure that counts is one of the failures. -/
theorem Failure.mem_of_foremost {fs : List Failure} {f : Failure} (h : foremost fs = some f) :
    f ∈ fs := by
  rcases Option.or_eq_some_iff.mp h with hf | ⟨-, hf⟩
  · exact List.mem_of_find?_eq_some hf
  · exact List.mem_of_head? hf

section Reports

variable (w : World)

theorem thrownMessage_error {v : Value} {f : Failure} (h : thrownMessage w v = .error f) :
    ∃ c, f = .crash c := by
  unfold thrownMessage at h
  split at h
  · cases h
  · cases ht : v.text? w.classes with
    | ok t =>
      rw [ht] at h
      cases h
    | error fault =>
      rw [ht] at h
      cases h
      exact ⟨_, rfl⟩

end Reports

end TypeHints
