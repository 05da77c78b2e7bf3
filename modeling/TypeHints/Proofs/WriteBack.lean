import TypeHints.Proofs.Coercions
import TypeHints.Proofs.Histories
import TypeHints.Proofs.InternRuns

/-!
# Annotations that are written back

Sanitizing the slot of a callable writes the coerced annotation back, before anything is made of it.
Whether the rest succeeds makes no difference then, and no other slot is written
(`sanitizeSlot_cases`).

After the call the slot is settled (`Settled`). There is nothing left to write, for one of three
reasons:

* it has no annotation;
* it has one that is refused whenever it is coerced, since the state has no part in a refusal
  (`refused_of_error`);
* it holds a hint that the interner gives back for itself.

An interner that only grows keeps a slot settled, and sanitizing a settled slot writes what is there
already. So the slot holds one object from then on, whatever is sanitized at whatever sites, as long
as nobody clears the interner (`write_back_settles`).

A `Desk` is what calls go through in this respect: the interner of a runtime, and the annotations of
all callables, some of which may be the same map. Each event brings its own store, site and state of
the engine with it (`Occasion`), so that nothing is assumed of what happens between events but that
representatives stay. One lemma says what an event does to a settled slot (`Desk.get?_after`), and
induction on the events what all of them do (`Desk.get?_run`).
-/

namespace TypeHints

open Attempt

/-! ### Writing once -/

/-- Hints that have been interned are interned as themselves from then on. -/
theorem Interner.intern_of_within {i i' : Interner} {h : Hint} (heq : i.intern h = (h, i))
    (hwithin : i.hints.Within i'.hints) : i'.intern h = (h, i') := by
  cases hh : isInternable h with
  | false => exact intern_of_not_isInternable hh i'
  | true =>
    have hget := intern_get? i hh
    rw [heq] at hget
    exact intern_of_get? hh (hwithin _ _ hget)

/-- What a hint is interned as is interned as itself at once. -/
theorem Interner.Sound.intern_again {i : Interner} (hi : i.Sound) (k : Hint) :
    (i.intern k).2.intern (i.intern k).1 = ((i.intern k).1, (i.intern k).2) :=
  have hk : (k, (i.intern k).1) ∈ (Interner.internAll [k] i).1 := List.mem_singleton_self _
  (hi.intern k).intern_intern (Interner.intern_of_mem_internAll hk)

section Slot

variable (w : World) (site : Site) (depth : Nat) (slot : String) (kind : ParameterKind)
  (label : String)

/-- Sanitizing a slot without annotation, with one that is refused, and with one that is coerced.
What comes after the coercion only adds to the engine. -/
theorem sanitizeSlot_cases (callable : Callable) (r : Run) :
    ((callable.annotations.get? slot = none ∨ callable.annotations.get? slot = some .undefined) ∧
      sanitizeSlot w site depth slot kind label (callable, r) = (.ok .ignorable, callable, r)) ∨
    (∃ raw f r', callable.annotations.get? slot = some raw ∧ raw ≠ .undefined ∧
      Run.coerceRoot w raw r = (.error f, r') ∧
      sanitizeSlot w site depth slot kind label (callable, r) =
        (.error (f.report label), callable, r')) ∨
    ∃ raw hint r₁ x r', callable.annotations.get? slot = some raw ∧ raw ≠ .undefined ∧
      Run.coerceRoot w raw r = (.ok hint, r₁) ∧ r₁.Grows r' ∧
      sanitizeSlot w site depth slot kind label (callable, r) =
        (x, { callable with annotations := callable.annotations.insert slot (.hint hint) }, r') := by
  unfold sanitizeSlot
  dsimp only
  split
  · exact .inl ⟨.inl ‹_›, rfl⟩
  · exact .inl ⟨.inr ‹_›, rfl⟩
  · rename_i raw hne hraw
    have hne : raw ≠ .undefined := hne
    rcases hcoerced : Run.coerceRoot w raw r with ⟨f | hint, r₁⟩
    · exact .inr (.inl ⟨raw, f, r₁, hraw, hne, hcoerced, rfl⟩)
    · refine .inr (.inr ⟨raw, hint, r₁, _, _, hraw, hne, hcoerced, ?_, rfl⟩)
      have hrest : Follows Run.Grows (mapFailure (Failure.report label) do
          reduce w site depth (← shapeSlot w site callable slot kind hint) none) :=
        .mapFailure _ ((Call.follows_shapeSlot (Site.grows_destringify w site) callable slot kind
          hint).bind fun h ↦ grows_reduce w site depth h none)
      exact hrest r₁

end Slot

/-! ### Settled slots -/

/-- There is nothing to write in a slot: it has no annotation, or one that is always refused, or a hint
that is interned as itself. -/
inductive Settled (w : World) (i : Interner) : Option Value → Prop
  | absent : Settled w i none
  | undefined : Settled w i (some .undefined)
  | refused {raw : Value} (h : ∀ r, ∃ f r', Run.coerceRoot w raw r = (.error f, r')) :
      Settled w i (some raw)
  | written {hint : Hint} (h : i.intern hint = (hint, i)) : Settled w i (some (.hint hint))

section Settling

variable {w : World} {site : Site} {depth : Nat} {slot : String} {kind : ParameterKind}
  {label : String} {callable callable' : Callable} {r r' : Run} {x : Except Report Sane}

/-- A settled slot stays settled while the interner grows. -/
theorem Settled.mono {i i' : Interner} {v? : Option Value} (h : Settled w i v?)
    (hwithin : i.hints.Within i'.hints) : Settled w i' v? := by
  cases h with
  | absent => exact .absent
  | undefined => exact .undefined
  | refused h => exact .refused h
  | written h => exact .written (Interner.intern_of_within h hwithin)

/-- A raw hint that was refused once is always refused: the state has no part in it. -/
theorem refused_of_error {raw : Value} {f : Failure}
    (h : Run.coerceRoot w raw r = (.error f, r')) (t : Run) :
    ∃ g t', Run.coerceRoot w raw t = (.error g, t') := by
  have hfirst := failure?_coerceRoot (w := w) raw r
  have hlater := failure?_coerceRoot (w := w) raw t
  rw [coerceKeyed_outcome, h] at hfirst
  rw [coerceKeyed_outcome, ← hfirst] at hlater
  rcases ht : Run.coerceRoot w raw t with ⟨g | k, t'⟩
  · exact ⟨g, t', rfl⟩
  · rw [ht] at hlater
    cases hlater

/-- The hint that a raw hint comes to is the representative of what it is coerced to. -/
theorem coerceRoot_inv {raw : Value} {hint : Hint}
    (h : Run.coerceRoot w raw r = (.ok hint, r')) :
    ∃ k s, coerceKeyed w raw r.store = (.ok k, s) ∧
      hint = (r.engine.interner.intern k).1 ∧
      r'.engine.interner = (r.engine.interner.intern k).2 := by
  obtain ⟨k, r₁, hk, hintern⟩ := bind_eq_ok_iff.mp h
  obtain ⟨s, hs, rfl⟩ := Run.onStore_inv hk
  obtain ⟨rfl, rfl⟩ := Run.intern_inv hintern
  exact ⟨k, s, hs, rfl, rfl⟩

/-- Sanitizing a root lets the interner grow. -/
theorem grows_sanitizeRoot (w : World) (site : Site) (depth : Nat) (raw : Value) (label : String) :
    Follows Run.Grows (sanitizeRoot w site depth raw label) :=
  .mapFailure _ ((Run.grows_coerceRoot w raw).bind fun h ↦ grows_reduce w site depth h none)

/-- So does sanitizing a child. -/
theorem grows_sanitizeChild (w : World) (site : Site) (depth : Nat) (parent : Sane) (hint : Hint)
    (label : String) : Follows Run.Grows (sanitizeChild w site depth parent hint label) :=
  .mapFailure _ ((Run.grows_intern hint).bind fun h ↦ grows_reduce w site depth h (some parent))

theorem grows_of_sanitizeSlot
    (h : sanitizeSlot w site depth slot kind label (callable, r) = (x, callable', r')) :
    r.Grows r' := by
  rcases sanitizeSlot_cases w site depth slot kind label callable r with ⟨-, he⟩ |
    ⟨raw, f, r₁, -, -, herror, he⟩ | ⟨raw, hint, r₁, y, r₂, -, -, hok, hgrows, he⟩ <;>
    cases he.symm.trans h
  · exact refl_of Run.Grows r
  · exact (Run.grows_coerceRoot w raw).of_run herror
  · exact trans_of Run.Grows ((Run.grows_coerceRoot w raw).of_run hok) hgrows

/-- Sanitizing settles a slot. -/
theorem settled_of_sanitizeSlot (hs : r.engine.interner.Sound)
    (h : sanitizeSlot w site depth slot kind label (callable, r) = (x, callable', r')) :
    Settled w r'.engine.interner (callable'.annotations.get? slot) := by
  rcases sanitizeSlot_cases w site depth slot kind label callable r with ⟨hnone, he⟩ |
    ⟨raw, f, r₁, hraw, -, herror, he⟩ | ⟨raw, hint, r₁, y, r₂, -, -, hok, hgrows, he⟩ <;>
    cases he.symm.trans h
  · rcases hnone with hnone | hnone <;> rw [hnone]
    · exact .absent
    · exact .undefined
  · rw [hraw]
    exact .refused (refused_of_error herror)
  · obtain ⟨k, s, -, rfl, hi⟩ := coerceRoot_inv hok
    rw [Dict.get?_insert_self]
    refine .written (Interner.intern_of_within ?_ hgrows.interner)
    rw [hi]
    exact hs.intern_again k

/-- Sanitizing any slot leaves a settled one as it is. -/
theorem get?_of_settled {name : String}
    (hsettled : Settled w r.engine.interner (callable.annotations.get? name))
    (h : sanitizeSlot w site depth slot kind label (callable, r) = (x, callable', r')) :
    callable'.annotations.get? name = callable.annotations.get? name := by
  rcases sanitizeSlot_cases w site depth slot kind label callable r with ⟨-, he⟩ |
    ⟨raw, f, r₁, -, -, -, he⟩ | ⟨raw, hint, r₁, y, r₂, hraw, hne, hok, -, he⟩ <;>
    cases he.symm.trans h
  · rfl
  · rfl
  · show (callable.annotations.insert slot (.hint hint)).get? name = _
    rw [Dict.get?_insert]
    split
    · rename_i hslot
      subst hslot
      rw [hraw] at hsettled ⊢
      cases hsettled with
      | undefined => exact absurd rfl hne
      | refused hrefused =>
        obtain ⟨f, r₃, herror⟩ := hrefused r
        cases hok.symm.trans herror
      | written hself =>
        -- the hint is coerced to itself, and interned as itself
        obtain ⟨k, s, hk, rfl, -⟩ := coerceRoot_inv hok
        cases (coerceKeyed_hint w _ r.store).symm.trans hk
        rw [hself]
    · rfl

end Settling

/-! ### What one call writes -/

/-- What sanitizing a slot in a run does to annotations: it replaces at most the one of the slot, by
the representative of what this is coerced to. -/
structure WritesBack (w : World) (slot : String) (r : Run) (a a' : Dict String Value) : Prop where
  keys : a'.keys = a.keys
  others : ∀ name, name ≠ slot → a'.get? name = a.get? name
  /-- Nothing that comes after the coercion has a say in this. -/
  written : ∀ raw k s, a.get? slot = some raw → raw ≠ .undefined →
    coerceKeyed w raw r.store = (.ok k, s) →
      a'.get? slot = some (.hint (r.engine.interner.intern k).1)
  refused : ∀ raw f s, a.get? slot = some raw → coerceKeyed w raw r.store = (.error f, s) → a' = a
  unannotated : a.get? slot = none ∨ a.get? slot = some .undefined → a' = a

theorem writesBack_sanitizeSlot {w : World} {site : Site} {depth : Nat} {slot : String}
    {kind : ParameterKind} {label : String} {callable callable' : Callable} {r r' : Run}
    {x : Except Report Sane}
    (h : sanitizeSlot w site depth slot kind label (callable, r) = (x, callable', r')) :
    WritesBack w slot r callable.annotations callable'.annotations := by
  rcases sanitizeSlot_cases w site depth slot kind label callable r with ⟨hnone, he⟩ |
    ⟨raw, f, r₁, hraw, -, herror, he⟩ | ⟨raw, hint, r₁, y, r₂, hraw, hne, hok, -, he⟩ <;>
    cases he.symm.trans h
  · refine ⟨rfl, fun _ _ ↦ rfl, fun raw k s hraw hne ↦ ?_, fun _ _ _ _ _ ↦ rfl, fun _ ↦ rfl⟩
    rcases hnone with hnone | hnone
    · cases hnone.symm.trans hraw
    · exact absurd (Option.some.inj (hraw.symm.trans hnone)) hne
  · refine ⟨rfl, fun _ _ ↦ rfl, fun raw' k s hraw' _ hk ↦ ?_, fun _ _ _ _ _ ↦ rfl, fun _ ↦ rfl⟩
    cases hraw.symm.trans hraw'
    have hfailure := failure?_coerceRoot (w := w) raw r
    rw [herror, hk] at hfailure
    cases hfailure
  · obtain ⟨k, s, hk, rfl, -⟩ := coerceRoot_inv hok
    refine ⟨Dict.keys_insert_of_get? hraw _, fun name hname ↦ ?_, fun raw' k' s' hraw' _ hk' ↦ ?_,
      fun raw' f s' hraw' hf ↦ ?_, fun hnone ↦ ?_⟩
    · exact (Dict.get?_insert _ _ _ _).trans (if_neg (Ne.symm hname))
    · cases hraw.symm.trans hraw'
      cases hk.symm.trans hk'
      exact Dict.get?_insert_self _ _ _
    · cases hraw.symm.trans hraw'
      cases hk.symm.trans hf
    · rcases hnone with hnone | hnone
      · cases hraw.symm.trans hnone
      · exact absurd (Option.some.inj (hraw.symm.trans hnone)) hne

/-! ### Calls on shared annotations -/

/-- What calls of sanitizing go through: the interner of a runtime, and the annotations of callables,
some of which may share theirs. -/
structure Desk where
  interner : Interner
  annotations : Nat → Dict String Value

/-- Where and when something is sanitized. The run is what the engine, the store and the site have
come to by then, apart from the interner. -/
structure Occasion where
  site : Site
  depth : Nat
  label : String
  run : Run

/-- What is sanitized. -/
inductive Sanitizing where
  /-- A raw hint that stands for itself. -/
  | root (raw : Value)
  /-- A child of a hint that has been reduced. -/
  | child (parent : Sane) (hint : Hint)
  /-- The slot `name` of a callable that has the annotations `map`. -/
  | slot (map : Nat) (callable : String) (kind : CallableKind) (name : String)
      (parameter : ParameterKind)

/-- What happens at a desk. -/
inductive Event where
  | sanitize (occasion : Occasion) (what : Sanitizing)
  | clear

/-- The run that a call begins with. -/
def Occasion.start (o : Occasion) (i : Interner) : Run :=
  { o.run with engine := { o.run.engine with interner := i } }

namespace Desk

/-- A desk after an event. -/
def after (w : World) (d : Desk) : Event → Desk
  | .sanitize o (.root raw) =>
    match sanitizeRoot w o.site o.depth raw o.label (o.start d.interner) with
    | (_, r) => { d with interner := r.engine.interner }
  | .sanitize o (.child parent hint) =>
    match sanitizeChild w o.site o.depth parent hint o.label (o.start d.interner) with
    | (_, r) => { d with interner := r.engine.interner }
  | .sanitize o (.slot map callable kind name parameter) =>
    match sanitizeSlot w o.site o.depth name parameter o.label
        (⟨callable, kind, d.annotations map⟩, o.start d.interner) with
    | (_, c, r) => ⟨r.engine.interner, fun m ↦ if m = map then c.annotations else d.annotations m⟩
  | .clear => { d with interner := .empty }

/-- A desk after events, first to last. -/
def run (w : World) (d : Desk) (es : List Event) : Desk := es.foldl (after w) d

variable {w : World} {d : Desk} {e : Event}

/-- Sanitizing a slot takes the interner, and the annotations that the callable has, from the desk and
puts back what comes of them. -/
theorem exists_after_slot (w : World) (d : Desk) (o : Occasion) (map : Nat) (callable : String)
    (kind : CallableKind) (name : String) (parameter : ParameterKind) :
    ∃ x c r, sanitizeSlot w o.site o.depth name parameter o.label
        (⟨callable, kind, d.annotations map⟩, o.start d.interner) = (x, c, r) ∧
      d.after w (.sanitize o (.slot map callable kind name parameter)) =
        ⟨r.engine.interner, fun m ↦ if m = map then c.annotations else d.annotations m⟩ :=
  ⟨_, _, _, rfl, rfl⟩

/-- What is sanitized only adds representatives. -/
theorem grows_after (he : e ≠ .clear) : d.interner.hints.Within (d.after w e).interner.hints ∧
    (d.interner.Sound → (d.after w e).interner.Sound) := by
  cases e with
  | clear => exact absurd rfl he
  | sanitize o what =>
    cases what with
    | root raw =>
      have hg := grows_sanitizeRoot w o.site o.depth raw o.label (o.start d.interner)
      exact ⟨hg.interner, hg.sound⟩
    | child parent hint =>
      have hg := grows_sanitizeChild w o.site o.depth parent hint o.label (o.start d.interner)
      exact ⟨hg.interner, hg.sound⟩
    | slot map callable kind name parameter =>
      obtain ⟨x, c, r, hslot, hafter⟩ := exists_after_slot w d o map callable kind name parameter
      have hg := grows_of_sanitizeSlot hslot
      rw [hafter]
      exact ⟨hg.interner, hg.sound⟩

/-- An event keeps the interner sound. -/
theorem sound_after (hs : d.interner.Sound) : (d.after w e).interner.Sound := by
  by_cases he : e = .clear
  · subst he
    exact Interner.sound_empty
  · exact (grows_after he).2 hs

/-- Representatives stand under their own keys, whatever has happened. -/
theorem sound_run (es : List Event) : ∀ {d : Desk}, d.interner.Sound → (d.run w es).interner.Sound := by
  induction es with
  | nil => exact id
  | cons e es ih => exact fun hs ↦ ih (sound_after hs)

/-- A settled slot of some annotations holds the same after whatever is sanitized. -/
theorem get?_after {map : Nat} {name : String} (he : e ≠ .clear)
    (hsettled : Settled w d.interner ((d.annotations map).get? name)) :
    ((d.after w e).annotations map).get? name = (d.annotations map).get? name := by
  cases e with
  | clear => exact absurd rfl he
  | sanitize o what =>
    cases what with
    | root _ | child _ _ => rfl
    | slot map' callable kind slot parameter =>
      obtain ⟨x, c, r, hslot, hafter⟩ := exists_after_slot w d o map' callable kind slot parameter
      rw [hafter]
      by_cases hmap : map = map'
      · subst hmap
        exact (congrArg (Dict.get? · name) (if_pos rfl)).trans (get?_of_settled hsettled hslot)
      · exact congrArg (Dict.get? · name) (if_neg hmap)

/-- A settled slot holds the same as long as the interner is not cleared. -/
theorem get?_run {map : Nat} {name : String} (es : List Event) : ∀ {d : Desk}, .clear ∉ es →
    Settled w d.interner ((d.annotations map).get? name) →
    ((d.run w es).annotations map).get? name = (d.annotations map).get? name := by
  induction es with
  | nil => exact fun _ _ ↦ rfl
  | cons e es ih =>
    intro d hclear hsettled
    rw [List.mem_cons, not_or] at hclear
    have hne : e ≠ .clear := Ne.symm hclear.1
    -- what the slot holds is the same, and what the interner has only more, so the slot stays settled
    have hstep := get?_after hne hsettled
    have hrest := ih (d := d.after w e) hclear.2 (hstep ▸ hsettled.mono (grows_after hne).1)
    exact hrest.trans hstep

end Desk

/-- Sanitizing a slot of a callable writes at most the annotation of that slot, and what it writes it
writes whether the rest succeeds or not. From then on the slot holds just that, whatever is sanitized
as long as the interner is not cleared. -/
theorem write_back_settles (w : World) (maps : Nat → Dict String Value) (before : List Event)
    (o : Occasion) (map : Nat) (callable : String) (kind : CallableKind) (slot : String)
    (parameter : ParameterKind) :
    let d := Desk.run w ⟨.empty, maps⟩ before
    let d' := d.after w (.sanitize o (.slot map callable kind slot parameter))
    (∀ other, other ≠ map → d'.annotations other = d.annotations other) ∧
      WritesBack w slot (o.start d.interner) (d.annotations map) (d'.annotations map) ∧
      ∀ later, .clear ∉ later →
        ((d'.run w later).annotations map).get? slot = (d'.annotations map).get? slot := by
  intro d d'
  have hsound : d.interner.Sound := Desk.sound_run (d := ⟨.empty, maps⟩) before Interner.sound_empty
  obtain ⟨x, c, r, hslot, hafter⟩ := Desk.exists_after_slot w d o map callable kind slot parameter
  have hafter : d' = ⟨r.engine.interner,
    fun m ↦ if m = map then c.annotations else d.annotations m⟩ := hafter
  have hmap : d'.annotations map = c.annotations := by
    rw [hafter]
    exact if_pos rfl
  refine ⟨fun other hother ↦ ?_, ?_, fun later hclear ↦ Desk.get?_run later hclear ?_⟩
  · rw [hafter]
    exact if_neg hother
  · rw [hmap]
    exact writesBack_sanitizeSlot hslot
  · have hinterner : d'.interner = r.engine.interner := by rw [hafter]
    rw [hmap, hinterner]
    exact settled_of_sanitizeSlot hsound hslot

/-! ### An annotation in a list

The result of an asynchronous callable is annotated with a list of types, which is no promise. A union
of these types has been interned before, and a second callable has the same annotations.
-/

namespace Listed

/-- The list of `string`, which is a hint already, and a list in which `number` is written out. -/
def raw : Value := .array [.hint (.primitive .string), .array [.string "number"]]

/-- Something is sanitized in a run that gives out labels from `next` on. -/
def occasion (next : Label) : Occasion :=
  ⟨Repeated.site, depthLimit, "load() ",
    ⟨{ Store.initial with next := next }, .fresh, none, []⟩⟩

/-- The result of the callable that has the annotations `map`. -/
def result (map : Nat) : Sanitizing := .slot map "load" .async returnSlot .positional

/-- Annotations of which only the result is a list. -/
def annotations (_ : Nat) : Dict String Value :=
  .ofList [("path", .string "string"), (returnSlot, raw)]

/-- The list is sanitized by itself. -/
def before : List Event := [.sanitize (occasion 100) (.root raw)]

/-- The desk at which the result is sanitized. -/
def desk : Desk := .run .builtin ⟨.empty, annotations⟩ before

/-- The desk after the result has been sanitized. -/
def settled : Desk := desk.after .builtin (.sanitize (occasion 200) (result 0))

/-- The result is sanitized again after that of the other callable. -/
def later : List Event := [.sanitize (occasion 300) (result 1), .sanitize (occasion 400) (result 0)]

/-- The union that was interned before. -/
def union : Hint := .union 102 [.primitive .string, .union 101 [.deferred 100 "number"]]

end Listed

/-- A result that is no promise is refused, and yet the union that stands for the list is written and
stays. -/
theorem write_back_settles_in_refused_result :
    .clear ∉ Listed.later ∧
      (∃ report, (sanitizeSlot .builtin (Listed.occasion 200).site depthLimit returnSlot .positional
        "load() " (⟨"load", .async, Listed.desk.annotations 0⟩,
          (Listed.occasion 200).start Listed.desk.interner)).1 = .error report) ∧
      (Listed.settled.annotations 0).keys = ["path", returnSlot] ∧
      (Listed.settled.annotations 0).get? "path" = some (.string "string") ∧
      (Listed.settled.annotations 0).get? returnSlot = some (.hint Listed.union) ∧
      ((Listed.settled.run .builtin Listed.later).annotations 0).get? returnSlot =
        some (.hint Listed.union) ∧
      (Listed.settled.annotations 1).get? returnSlot = some Listed.raw := by
  have hclear : .clear ∉ Listed.later := by simp [Listed.later]
  obtain ⟨hothers, hwrites, hstays⟩ := write_back_settles .builtin Listed.annotations Listed.before
    (Listed.occasion 200) 0 "load" .async returnSlot .positional
  have hraw : (Listed.desk.annotations 0).get? returnSlot = some Listed.raw := rfl
  have hwritten : (Listed.settled.annotations 0).get? returnSlot = some (.hint Listed.union) :=
    hwrites.written Listed.raw _ _ hraw nofun rfl
  refine ⟨hclear, ⟨_, rfl⟩, hwrites.keys, hwrites.others "path" (by decide), hwritten,
    (hstays _ hclear).trans hwritten, ?_⟩
  exact congrArg (Dict.get? · returnSlot) (hothers 1 (by decide))

end TypeHints
