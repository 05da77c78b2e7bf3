import TypeHints.Proofs.Arguments
import TypeHints.Proofs.Coercions
import TypeHints.Proofs.Slots

/-!
# Two ways to write an annotation

A slot can be annotated with a text or with the hint that the text stands for. The text is read as
soon as the slot is shaped, if it is shaped (`readsFirst`), else by the first step of reduction; the
hint is replaced by its representative and then shaped. Either way the slot is checked against the
same shape (`Call.run_text_agree`), as long as

* the text stands for a hint that is no text again, since only one text is read before shaping;
* keys tell apart just those hints that are not alike, so that representatives are alike to what
  they stand for.

The text takes one step more where reading is left to the reduction (`readingSteps`), so both come
to the same unless the text exhausts the depth (`sanitizeSlot_text`). What is the same is told by
keys: the code of a report, or the hint of the model, its bindings and its overrides
(`Sane.SameKeys`).

Messages are the same too if keys tell apart unions whose members stand in different orders. They do
not: the representative of a union has its members in the order in which they came first, and a
message that repeats the annotation shows that order for a hint, and the order of the text for a
text (`spellings_differ`). That aliases are read alike each time is needed as well, for an alias
that builds a new template with each reading leads to two keys.
-/

namespace TypeHints

open Attempt Hint
open ForwardRef (Namesake namesake_refl namesake_equivalence)

/-! ### What a text stands for -/

/-- No hint but a text is a text. -/
theorem Hint.composes_not_isDeferred : Hint.Composes (·.isDeferred = false) := by
  constructor <;> intros <;> rfl

/-- A site starts with no name for a text if it brings none. -/
theorem Site.startScope_not_isDeferred {w : World} {site : Site} {names : Label → String}
    {base : Scope} (hnames : ∀ e ∈ site.names, e.2.isDeferred = false)
    (hbase : site.startScope w names = .ok base) : base.All (·.isDeferred = false) :=
  startScope_all (by decide) (fun _ ↦ rfl) hnames hbase

section Texts

variable {w W : World} {site : Site} {names : Label → String} {B : Book} {M : Hint → Prop}
  {text : String} {h : Hint} {r r₀ r₁ : Run}

/-- A run stays in order when a text is read. -/
theorem Run.InOrder.read {x : Except Cause Hint} (hr₀ : r₀.InOrder w W site names B M)
    (hread : site.destringify w text r₀ = (x, r)) : r.InOrder w W site names B M := by
  have hin := hr₀.destringify text
  rwa [hread] at hin

/-- A text that stands for a hint at a site stands for an alike one in every other run there. -/
theorem Run.InOrder.reads (mixed : Bool) (hr : r.InOrder w W site names B M) (hr₀ : r₀.At w W site names)
    (hread : site.destringify w text r₀ = (.ok h, r₁)) :
    ∃ k r₂, site.destringify w text r = (.ok k, r₂) ∧ Hint.Alike Namesake mixed k h ∧
      r₂.InOrder w W site names B M := by
  have hagree : Outcomes (Cause.Alike Namesake mixed) (Hint.Alike Namesake mixed)
      (site.destringify w text r).1 (site.destringify w text r₀).1 :=
    (Site.destringify_agree text).outcomes hr.surroundings hr₀
  have hin := hr.destringify text
  rw [hread] at hagree
  rcases hk : site.destringify w text r with ⟨c | k, r₂⟩ <;> rw [hk] at hagree hin <;> cases hagree
  rename_i halike
  exact ⟨k, r₂, rfl, halike, hin⟩

end Texts

/-! ### The two runs -/

/-- The steps of reduction that it takes to read a text in a slot. -/
def readingSteps (slot : String) (kind : ParameterKind) : Nat :=
  if readsFirst slot kind then 0 else 1

namespace Call

section Runs

variable {w W : World} {site : Site} {names : Label → String} {B B' : Book} {M M' : Hint → Prop}
  {mixed : Bool} {depth : Nat} {callable : Callable} {name text : String} {kind : ParameterKind}
  {c : Call} {h k : Hint} {r r' r₀ r₁ r₂ r₃ : Run}

theorem run_of_start (depth : Nat) (hs : c.start w site r = (.ok h, r₁)) :
    c.run w site depth r = reduce w site depth h c.parent? r₁ ∧
      c.visits w site depth r = TypeHints.visits w site depth h c.parent? r₁ := by
  refine ⟨bind_apply_ok hs, ?_⟩
  rw [visits, hs]

/-- The representative of a hint in a slot is shaped and reduced. -/
theorem start_slot_hint (callable : Callable) (name : String) (kind : ParameterKind)
    (hh : (r.engine.interner.intern h).1.isDeferred = false) :
    (slot callable name kind (.hint h)).start w site r =
      (((callable.shaped name kind (r.engine.interner.intern h).1).mapError .cause),
        (Run.intern h r : Except Failure Hint × Run).2) := by
  have hcoerce : Run.coerceRoot w (.hint h) r =
      (.ok (r.engine.interner.intern h).1, (Run.intern h r : Except Failure Hint × Run).2) := rfl
  rw [start, bind_apply_ok hcoerce, shapeSlot_of_not_isDeferred hh]
  rfl

/-- The hint that a text in a slot stands for is shaped and reduced: the text is read on the way, in
the first step of reduction unless before. -/
theorem run_slot_string (depth : Nat) (callable : Callable) (name : String) (kind : ParameterKind)
    (hc : Run.coerceRoot w (.string text) r = (.ok (.deferred l text), r₂))
    (hread : site.destringify w text r₂ = (.ok k, r₃)) :
    match callable.shaped name kind k with
    | .error c => ((slot callable name kind (.string text)).run w site
        (depth + readingSteps name kind) r).1 = .error (.cause c)
    | .ok a => (slot callable name kind (.string text)).run w site
          (depth + readingSteps name kind) r = reduce w site depth a none r₃ ∧
        ∀ v ∈ TypeHints.visits w site depth a none r₃,
          v ∈ (slot callable name kind (.string text)).visits w site
            (depth + readingSteps name kind) r := by
  have hread' : (site.destringify w text).mapFailure Failure.cause r₂ = (.ok k, r₃) :=
    mapFailure_eq_ok_iff.mpr hread
  cases hfirst : readsFirst name kind with
  | true =>
    have hstart : (slot callable name kind (.string text)).start w site r =
        ((callable.shaped name kind k).mapError .cause, r₃) := by
      rw [start, bind_apply_ok hc, shapeSlot_of_readsFirst hfirst]
      exact bind_apply_ok hread'
    rw [readingSteps, if_pos hfirst, Nat.add_zero]
    cases hshape : callable.shaped name kind k with
    | error c =>
      rw [hshape] at hstart
      exact congrArg Prod.fst (bind_apply_error hstart)
    | ok a =>
      rw [hshape] at hstart
      obtain ⟨hrun, hvisits⟩ := run_of_start depth hstart
      exact ⟨hrun, fun v hv ↦ hvisits ▸ hv⟩
  | false =>
    have hstart : (slot callable name kind (.string text)).start w site r =
        (.ok (.deferred l text), r₂) := by
      rw [start, bind_apply_ok hc, shapeSlot_of_not_readsFirst hfirst]
      rfl
    have hstep : reduceStep w site (.deferred l text) none r₂ = (.ok (.goOn k none), r₃) :=
      bind_apply_ok hread'
    obtain ⟨hrun, hvisits⟩ := run_of_start (depth + 1) hstart
    rw [shaped_of_not_readsFirst hfirst, readingSteps, hfirst, if_neg Bool.false_ne_true]
    refine ⟨hrun.trans (reduce_succ_goOn hstep), fun v hv ↦ ?_⟩
    rw [hvisits]
    have hcons : TypeHints.visits w site (depth + 1) (.deferred l text) none r₂ =
        ⟨.deferred l text, none, r₂⟩ :: TypeHints.visits w site depth k none r₃ :=
      visits_succ_goOn hstep
    exact hcons ▸ List.mem_cons_of_mem _ hv

/-- In runs that are in order, a slot is sanitized alike whether it is annotated with a text or with
the hint that the text stands for at the site. -/
theorem run_text_agree (hW : w.Pure W) (hM : Faithful Namesake mixed M)
    (hM' : Faithful Namesake mixed M') (hr₀ : r₀.At w W site names)
    (hread : site.destringify w text r₀ = (.ok h, r₁)) (hh : h.isDeferred = false)
    (hr : r.InOrder w W site names B M) (hr' : r'.InOrder w W site names B' M')
    (known : (slot callable name kind (.string text)).Known w site B M
      (depth + readingSteps name kind) r)
    (known' : (slot callable name kind (.hint h)).Known w site B' M' depth r') :
    Outcomes (Failure.Alike Namesake mixed) (Sane.Alike Namesake mixed)
      ((slot callable name kind (.string text)).run w site (depth + readingSteps name kind) r).1
      ((slot callable name kind (.hint h)).run w site depth r').1 := by
  have he : Equivalence (Hint.Alike Namesake mixed) := alike_equivalence namesake_equivalence
  obtain ⟨l, r₂, hcoerce, hquiet⟩ := Run.coerceRoot_string w text r
  obtain ⟨k, r₃, hk, hkh, hin⟩ := (hr.quiet hquiet).reads mixed hr₀ hread
  obtain ⟨-, hrep⟩ := hr'.intern_alike hM' (known'.given h rfl)
  have hin' : (Run.intern h r' : Except Failure Hint × Run).2.InOrder w W site names B' M' :=
    hr'.intern (known'.given h rfl)
  have hstart : (slot callable name kind (.hint h)).start w site r' = _ :=
    start_slot_hint callable name kind (hrep.isDeferred_eq.trans hh)
  have htext := run_slot_string depth callable name kind hcoerce hk
  have hshapes := callable.shaped_agree name kind (he.trans hkh (he.symm hrep))
  cases hshape : callable.shaped name kind k with
  | error c =>
    rw [hshape] at htext hshapes
    rcases hshape' : callable.shaped name kind (r'.engine.interner.intern h).1 with c' | a' <;>
      rw [hshape'] at hstart hshapes <;> cases hshapes
    rename_i hcc
    rw [htext, run, bind_apply_error hstart]
    exact .error (.cause hcc)
  | ok a =>
    rw [hshape] at htext hshapes
    obtain ⟨hrun, hvisits⟩ := htext
    rcases hshape' : callable.shaped name kind (r'.engine.interner.intern h).1 with c' | a' <;>
      rw [hshape'] at hstart hshapes <;> cases hshapes
    rename_i haa
    obtain ⟨hrun', hvisits'⟩ := run_of_start depth hstart
    have hknown : ∀ v ∈ TypeHints.visits w site depth a none r₃, v.Known w B M :=
      fun v hv ↦ known.visited v (hvisits v hv)
    have hknown' : ∀ v ∈ TypeHints.visits w site depth a' none
        (Run.intern h r' : Except Failure Hint × Run).2,
        v.Known w B' M' ∧ v.Avoids fun _ _ ↦ False :=
      fun v hv ↦ ⟨known'.visited v (hvisits' ▸ hv), fun _ _ ↦ not_false⟩
    obtain ⟨houtcome, -⟩ := reduce_agree hW hM hM' Sane.corresponds_alikeBelow depth haa
      Sane.alikeBelow_none hknown hknown' (.empty _) (.empty _) ⟨hin, hin'⟩ trivial
    rw [hrun, hrun']
    exact houtcome.mono fun s t hst ↦ ⟨hst.1, hst.2.table, hst.2.guard, hst.2.overridden⟩

/-- Visits to a depth are visits to a greater one. -/
theorem mem_visits_succ (depth : Nat) : ∀ {h : Hint} {p? : Option Sane} {r : Run} {v : Visit},
    v ∈ TypeHints.visits w site depth h p? r → v ∈ TypeHints.visits w site (depth + 1) h p? r := by
  induction depth with
  | zero => exact fun hv ↦ by cases hv
  | succ depth ih =>
    intro h p? r v hv
    rcases hstep : reduceStep w site h p? r with ⟨f | (s | ⟨k, q?⟩), r₁⟩
    · rwa [visits_succ_error hstep] at hv ⊢
    · rwa [visits_succ_done hstep] at hv ⊢
    · rw [visits_succ_goOn hstep] at hv ⊢
      exact (List.mem_cons.mp hv).elim (fun heq ↦ heq ▸ List.mem_cons_self) fun hv ↦
        List.mem_cons_of_mem _ (ih hv)

/-- A call that has not been cut short comes to the same at a greater depth. -/
theorem run_succ_of_ne_tooDeep (h : (c.run w site depth r).1 ≠ .error (.crash .tooDeep)) :
    c.run w site (depth + 1) r = c.run w site depth r := by
  rcases hs : c.start w site r with ⟨f | k, r₂⟩
  · rw [run, run, bind_apply_error hs, bind_apply_error hs]
  · obtain ⟨hrun, -⟩ := run_of_start depth hs
    obtain ⟨hrun', -⟩ := run_of_start (depth + 1) hs
    rw [hrun] at h
    rw [hrun, hrun', (reduce_succ_of_ne_tooDeep depth h).1]

theorem known_of_succ (known : c.Known w site B M (depth + 1) r) : c.Known w site B M depth r := by
  refine ⟨known.given, fun v hv ↦ known.visited v ?_⟩
  unfold visits at hv ⊢
  split at hv
  · exact mem_visits_succ depth hv
  · cases hv

/-- At one depth too, unless the text exhausts it. -/
theorem run_text_agree_of_ne_tooDeep (hW : w.Pure W) (hM : Faithful Namesake mixed M)
    (hM' : Faithful Namesake mixed M') (hr₀ : r₀.At w W site names)
    (hread : site.destringify w text r₀ = (.ok h, r₁)) (hh : h.isDeferred = false)
    (hr : r.InOrder w W site names B M) (hr' : r'.InOrder w W site names B' M')
    (known : (slot callable name kind (.string text)).Known w site B M depth r)
    (known' : (slot callable name kind (.hint h)).Known w site B' M' depth r')
    (hdeep : ((slot callable name kind (.string text)).run w site depth r).1 ≠
      .error (.crash .tooDeep)) :
    Outcomes (Failure.Alike Namesake mixed) (Sane.Alike Namesake mixed)
      ((slot callable name kind (.string text)).run w site depth r).1
      ((slot callable name kind (.hint h)).run w site depth r').1 := by
  cases hfirst : readsFirst name kind with
  | true =>
    have hsteps : depth + readingSteps name kind = depth := by simp [readingSteps, hfirst]
    rw [← hsteps] at known
    have hagree := run_text_agree hW hM hM' hr₀ hread hh hr hr' known known'
    rwa [hsteps] at hagree
  | false =>
    have hsteps : ∀ n, n + readingSteps name kind = n + 1 := by simp [readingSteps, hfirst]
    cases depth with
    | zero =>
      -- no step is left to read the text with
      obtain ⟨l, r₂, hcoerce, -⟩ := Run.coerceRoot_string w text r
      have hstart : (slot callable name kind (.string text)).start w site r =
          (.ok (.deferred l text), r₂) := by
        rw [start, bind_apply_ok hcoerce, shapeSlot_of_not_readsFirst hfirst]
        rfl
      refine absurd ?_ hdeep
      rw [(run_of_start 0 hstart).1]
      rfl
    | succ n =>
      rw [← hsteps n] at known
      have hagree := run_text_agree hW hM hM' hr₀ hread hh hr hr' known (known_of_succ known')
      rw [hsteps n] at hagree
      -- the hint is not cut short either, so that the last step changes nothing
      have hdeep' : ((slot callable name kind (.hint h)).run w site n r').1 ≠
          .error (.crash .tooDeep) := by
        intro hcut
        rw [hcut] at hagree
        rcases hrun : ((slot callable name kind (.string text)).run w site (n + 1) r).1 with f | s <;>
          rw [hrun] at hagree hdeep <;> cases hagree
        rename_i hf
        cases hf
        exact hdeep rfl
      rwa [run_succ_of_ne_tooDeep hdeep']

end Runs

end Call

/-! ### Outcomes -/

/-- The message of a report, unless it is a crash. -/
def Report.message? : Report → Option String
  | .diagnostic d => some d.message
  | .crash _ => none

theorem Report.Alike.message?_eq {f g : Report} (h : Report.Alike Namesake false f g) :
    f.message? = g.message? := by
  cases h with
  | diagnostic h label =>
    have hmessage := h.message_eq fun _ _ h ↦ h.name
    simp only [message?, Diagnostic.atSite, hmessage]
  | crash _ => rfl

/-- Two models have hints of one key, bind the same parameters to arguments of one key, and have the
same overrides applied. -/
structure Sane.SameKeys (s t : Sane) : Prop where
  hint : s.hint.stableKey = t.hint.stableKey
  table : List.Forall₂ (fun e e' ↦ e.1 = e'.1 ∧ e.2.stableKey = e'.2.stableKey)
    s.table.entries.entries t.table.entries.entries
  overridden : s.overridden = t.overridden

/-- Bindings that are alike have the same keys where keys are faithful. -/
theorem AlikeBindings.keys {mixed : Bool} {M : Hint → Prop} (hM : Faithful Namesake mixed M)
    {es es' : List (TypeParameter × Hint)} (h : AlikeBindings Namesake mixed es es')
    (hes : ∀ e ∈ es, M e.2) (hes' : ∀ e ∈ es', M e.2) :
    List.Forall₂ (fun e e' ↦ e.1 = e'.1 ∧ e.2.stableKey = e'.2.stableKey) es es' := by
  induction h with
  | nil => exact .nil
  | cons head _ ih =>
    rw [List.forall_mem_cons] at hes hes'
    exact .cons ⟨head.1, (hM _ _ hes.1 hes'.1).mpr head.2⟩ (ih hes.2 hes'.2)

/-- The hints that are met in a call have `M`: those that are handed to the engine, those that the
steps handle, and the arguments that the model binds. -/
structure Call.Met (w : World) (site : Site) (B : Book) (M : Hint → Prop) (depth : Nat) (c : Call)
    (r : Run) : Prop where
  known : c.Known w site B M depth r
  bound : ∀ s, (c.run w site depth r).1 = .ok s → ∀ e ∈ s.table.entries.entries, M e.2

section Slots

variable {w W : World} {site : Site} {names : Label → String} {B B' : Book} {M : Hint → Prop}
  {mixed : Bool} {depth : Nat} {callable : Callable} {slot text label : String}
  {kind : ParameterKind} {h : Hint} {r r' r₀ r₁ : Run}

theorem sanitizeSlot_annotate (raw : Value) (hraw : raw ≠ .undefined) :
    (sanitizeSlot w site depth slot kind label (callable.annotate slot raw, r)).1 =
      (mapFailure (Failure.report label) ((Call.slot callable slot kind raw).run w site depth)
        r).1 := by
  have hget : (callable.annotate slot raw).annotations.get? slot = some raw :=
    Dict.get?_insert_self callable.annotations slot raw
  exact Call.sanitizeSlot_fst hget hraw r

/-- A slot that is annotated with a text comes to what it comes to if it is annotated with the hint
that the text stands for at the site: to a report with the same code, or to a model with the same
keys, bindings and overrides. The messages are the same too, if keys tell apart unions whose members
stand in different orders. -/
theorem sanitizeSlot_text (hW : w.Pure W) (hM : Faithful Namesake mixed M)
    (hscope : ∀ base, site.startScope w names = .ok base → base.All (·.isDeferred = false))
    (hr₀ : r₀.At w W site names) (hread : site.destringify w text r₀ = (.ok h, r₁))
    (hr : r.InOrder w W site names B M) (hr' : r'.InOrder w W site names B' M)
    (met : (Call.slot callable slot kind (.string text)).Met w site B M depth r)
    (met' : (Call.slot callable slot kind (.hint h)).Met w site B' M depth r')
    (hdeep : (sanitizeSlot w site depth slot kind label
      (callable.annotate slot (.string text), r)).1 ≠ .error (.crash .tooDeep)) :
    Outcomes (fun f g ↦ f.code? = g.code? ∧ (mixed = false → f.message? = g.message?))
      Sane.SameKeys
      (sanitizeSlot w site depth slot kind label (callable.annotate slot (.string text), r)).1
      (sanitizeSlot w site depth slot kind label (callable.annotate slot (.hint h), r')).1 := by
  rw [sanitizeSlot_annotate (.string text) nofun] at hdeep
  rw [sanitizeSlot_annotate (.string text) nofun, sanitizeSlot_annotate (.hint h) nofun]
  have hagree := Call.run_text_agree_of_ne_tooDeep hW hM hM hr₀ hread
    (Site.value_of_destringify Hint.composes_not_isDeferred hr₀ hscope hread) hr hr' met.known met'.known
    (ne_tooDeep_of_report hdeep)
  have hkeyed (s : Sane) (hs : ((Call.slot callable slot kind (.string text)).run w site depth r).1 =
      .ok s) := And.intro (keyed_run hr.holds met.known hs) (met.bound s hs)
  have hkeyed' (t : Sane) (ht : ((Call.slot callable slot kind (.hint h)).run w site depth r').1 =
      .ok t) := And.intro (keyed_run hr'.holds met'.known ht) (met'.bound t ht)
  refine ((hagree.and hkeyed hkeyed').report label).imp (fun f g hfg ↦ ⟨hfg.code?_eq, ?_⟩) ?_
  · rintro rfl
    exact hfg.message?_eq
  · rintro s t ⟨halike, ⟨hs, hbound⟩, ht, hbound'⟩
    exact ⟨hs.stableKey_eq hM ht halike.hint, halike.table.keys hM hbound hbound',
      halike.overridden⟩

end Slots

theorem Repeated.at_start (w : World) (site : Site) : (start .fresh).At w
    (w.under Store.initial) site (Store.initial.shown w.classes) :=
  ⟨rfl, rfl, Registry.sound_empty, nofun⟩

/-! ### A promise of a map

An asynchronous callable is annotated with `Promise<Map<string, number>>`. The text is read anew, so
that the two runs come to two applications of `Map`, which are alike.
-/

namespace Loaded

/-- The text of the annotation. -/
def text : String := "Promise<Map<string, number>>"

/-- The callable that is annotated. -/
def load : Callable := ⟨"load", .async, ∅⟩

/-- The hint `Map<string, number>` under a label. -/
def map (l : Label) : Hint :=
  .subscripted l (.template Builtin.map) [.primitive .string, .primitive .number]

/-- The hint that the text stands for. -/
def hint : Hint := .subscripted 52 (.template Builtin.promise) [map 51]

/-- Reading the text in a run in which nothing has been read yet. -/
@[irreducible]
def reading : Except Cause Hint × Run :=
  Repeated.site.destringify .builtin text (Repeated.start .fresh)

/-- The run in which the text has been read. -/
def run : Run := reading.2

/-- The hints that are met. -/
def handled : List Hint :=
  [.deferred 53 text, hint, map 51, map 54, .primitive .string, .primitive .number]

/-- The book in which every label stands for the map under it. -/
def book : Book := ⟨map, World.builtin.bound?⟩

theorem reading_eq : Repeated.site.destringify .builtin text (Repeated.start .fresh) =
    (.ok hint, run) := by
  have hhint : reading.1.toOption = some hint := by decide +kernel
  rw [run, ← eq_ok_of_toOption_eq hhint, reading]

theorem faithful : Faithful Namesake false (· ∈ handled) := by
  have hkeys : ∀ h ∈ handled, ∀ k ∈ handled, h.stableKey = k.stableKey →
      h = k ∨ h = map 51 ∧ k = map 54 ∨ h = map 54 ∧ k = map 51 := by decide +kernel
  have hreprs : ∀ h ∈ handled, ∀ k ∈ handled, h.repr = k.repr → h.stableKey = k.stableKey := by
    decide +kernel
  have hmaps (l m : Label) : Hint.Alike Namesake false (map l) (map m) :=
    .appliedTemplate l m Builtin.map (.refl namesake_refl _)
  refine fun h k hh hk ↦ ⟨fun heq ↦ ?_, fun halike ↦ ?_⟩
  · rcases hkeys h hh k hk heq with rfl | ⟨rfl, rfl⟩ | ⟨rfl, rfl⟩
    · exact .refl namesake_refl h
    · exact hmaps 51 54
    · exact hmaps 54 51
  · exact hreprs h hh k hk (halike.repr_eq fun _ _ hrs ↦ hrs.name)

/-- The run is in order, with just its hints met. -/
theorem inOrder : run.InOrder .builtin (World.builtin.under Store.initial) Repeated.site
    (Store.initial.shown Builtin.classes) book (· ∈ handled) :=
  (History.fresh.reliable.inOrder (Repeated.at_start _ _)).read reading_eq

/-- A call visits just the map under a label, and meets just the hints. -/
def meets (raw : Value) (l : Label) : Bool :=
  let call := Call.slot load returnSlot .positional raw
  (call.given? .builtin run).all (· ∈ handled) &&
    (call.visits .builtin Repeated.site 1 run).all (fun v ↦
      v.hint = map l && v.run.store.params.isEmpty) &&
    (call.run .builtin Repeated.site 1 run).1.toOption.all fun s ↦
      s.table.entries.entries.all (·.2 ∈ handled)

/-- The hints that are met in either call are those of the list. -/
theorem met {raw : Value} {l : Label} (hl : map l ∈ handled) (h : meets raw l = true) :
    (Call.slot load returnSlot .positional raw).Met .builtin Repeated.site book (· ∈ handled) 1
      run := by
  simp only [meets, Bool.and_eq_true, List.all_eq_true, decide_eq_true_eq] at h
  obtain ⟨⟨hgiven, hvisits⟩, hbound⟩ := h
  refine ⟨⟨fun k hk ↦ ?_, fun v hv ↦ ?_⟩, fun s hs ↦ ?_⟩
  · rw [hk] at hgiven
    exact of_decide_eq_true hgiven
  rotate_left
  · rw [hs] at hbound
    exact fun e he ↦ of_decide_eq_true (List.all_eq_true.mp hbound e he)
  obtain ⟨hhint, hparams⟩ := hvisits v hv
  refine ⟨fun k hk ↦ ?_, fun m o args heq ↦ ?_⟩
  · have halias (a : Alias) (application? : Option (Label × List Hint)) :
        v.hint ≠ a.form application? := by
      rw [hhint]
      rcases application? with - | ⟨m, args⟩ <;> exact nofun
    rw [hk.eq_hint (by rw [hhint]; rfl) halias, hhint]
    exact hl
  · obtain ⟨rfl, rfl, rfl⟩ := Hint.subscripted.inj (hhint.symm.trans heq)
    refine ⟨rfl, fun p _ ↦ ?_⟩
    rw [World.bound?, World.under, List.isEmpty_iff.mp hparams]
    rfl

end Loaded

/-- The result of a callable that is annotated with `"Promise<Map<string, number>>"` comes to what it
comes to if it is annotated with that hint. -/
theorem sanitizeSlot_text_loaded :
    Outcomes (fun f g ↦ f.code? = g.code? ∧ (false = false → f.message? = g.message?)) Sane.SameKeys
      (sanitizeSlot .builtin Repeated.site 1 returnSlot .positional ""
        (Loaded.load.annotate returnSlot (.string Loaded.text), Loaded.run)).1
      (sanitizeSlot .builtin Repeated.site 1 returnSlot .positional ""
        (Loaded.load.annotate returnSlot (.hint Loaded.hint), Loaded.run)).1 := by
  refine sanitizeSlot_text (Renamed.pure_builtin _ rfl) Loaded.faithful
    (fun _ ↦ Site.startScope_not_isDeferred (by decide)) (Repeated.at_start _ _) Loaded.reading_eq Loaded.inOrder
    Loaded.inOrder
    (Loaded.met (l := 54) (by decide +kernel) (by decide +kernel))
    (Loaded.met (l := 51) (by decide +kernel) (by decide +kernel)) ?_
  intro htooDeep
  have hok : (sanitizeSlot .builtin Repeated.site 1 returnSlot .positional ""
      (Loaded.load.annotate returnSlot (.string Loaded.text), Loaded.run)).1.toOption.isSome := by
    decide +kernel
  rw [htooDeep] at hok
  cases hok

/-! ### What the spelling shows in

The representative of a union has its members in the order in which they came first. A message that
repeats the annotation shows that order for a hint, and its own order for a text. Keys do not tell
the two unions apart, nor are they meant to.

An alias that builds a new template each time it is read gives two runs different templates.
-/

/-- A text stands for a hint that is no text, and keys tell apart what is met in a run where the result
of a callable is annotated with either. -/
structure Respelled (mixed : Bool) (w : World) (site : Site) (depth : Nat) (callable : Callable)
    (text : String) (h : Hint) (W : World) (names : Label → String) (B : Book) (M : Hint → Prop)
    (r₀ r : Run) : Prop where
  faithful : Faithful Namesake mixed M
  scope : ∀ base, site.startScope w names = .ok base → base.All (·.isDeferred = false)
  before : r₀.At w W site names
  reading : site.destringify w text r₀ = (.ok h, r)
  inOrder : r.InOrder w W site names B M
  text : (Call.slot callable returnSlot .positional (.string text)).Met w site B M depth r
  hint : (Call.slot callable returnSlot .positional (.hint h)).Met w site B M depth r

namespace Mixed

/-- The text of the annotation. -/
def text : String := "string | number"

/-- The union `number | string`. -/
def earlier : Hint := .union 50 [.primitive .number, .primitive .string]

/-- The hint that the text stands for. -/
def hint : Hint := .union 51 [.primitive .string, .primitive .number]

/-- A run in which `number | string` has been interned. -/
def before : Run := (Run.intern earlier (Repeated.start .fresh) : Except Failure Hint × Run).2

/-- Reading the text there. -/
@[irreducible]
def reading : Except Cause Hint × Run := Repeated.site.destringify .builtin text before

/-- The run in which the text has been read. -/
def run : Run := reading.2

/-- The hints that are met. -/
def handled : List Hint := [.deferred 52 text, earlier, hint]

theorem reading_eq : Repeated.site.destringify .builtin text before = (.ok hint, run) := by
  have hhint : reading.1.toOption = some hint := by decide +kernel
  rw [run, ← eq_ok_of_toOption_eq hhint, reading]

/-- Keys tell apart just what differs by more than the order of members. -/
theorem faithful : Faithful Namesake true (· ∈ handled) := by
  have hunions : Hint.Alike Namesake true earlier hint :=
    .union 50 51 (.refl namesake_refl _) (.swap _ _ _) fun h ↦ absurd h (by decide)
  have hkeys : ∀ h ∈ handled, ∀ k ∈ handled, (h.stableKey = k.stableKey ↔ h.isUnion = k.isUnion) := by
    decide +kernel
  intro h k hh hk
  rw [hkeys h hh k hk]
  simp only [handled, List.mem_cons, List.not_mem_nil, or_false] at hh hk
  refine ⟨fun heq ↦ ?_, Hint.Alike.isUnion_eq⟩
  rcases hh with rfl | rfl | rfl <;> rcases hk with rfl | rfl | rfl <;> first
    | exact .refl namesake_refl _
    | exact hunions
    | exact hunions.symm fun _ _ ↦ namesake_equivalence.symm
    | cases heq

theorem inOrder (B : Book) : run.InOrder .builtin (World.builtin.under Store.initial) Repeated.site
    (Store.initial.shown Builtin.classes) B (· ∈ handled) := by
  have hstart : (Repeated.start .fresh).InOrder .builtin (World.builtin.under Store.initial)
      Repeated.site (Store.initial.shown Builtin.classes) B (· ∈ handled) :=
    History.fresh.reliable.inOrder (Repeated.at_start _ _)
  exact (hstart.intern (List.mem_cons_of_mem _ List.mem_cons_self)).read reading_eq

/-- An annotation that is refused for its shape meets just what it is. -/
theorem met {B : Book} {raw : Value}
    (hgiven : ((Call.slot Loaded.load returnSlot .positional raw).given? .builtin run).all
      (· ∈ handled))
    (hstart : ((Call.slot Loaded.load returnSlot .positional raw).start .builtin Repeated.site
      run).1.toOption = none) :
    (Call.slot Loaded.load returnSlot .positional raw).Met .builtin Repeated.site B (· ∈ handled) 1
      run := by
  rcases hrun : (Call.slot Loaded.load returnSlot .positional raw).start .builtin Repeated.site run
    with ⟨f | h, r⟩ <;> rw [hrun] at hstart
  · refine ⟨⟨fun k hk ↦ ?_, fun v hv ↦ ?_⟩, fun s hs ↦ ?_⟩
    · rw [hk] at hgiven
      exact of_decide_eq_true hgiven
    · rw [Call.visits, hrun] at hv
      cases hv
    · rw [Call.run, bind_apply_error hrun] at hs
      cases hs
  · cases hstart

end Mixed

theorem Outcomes.message?_eq {V : Sane → Sane → Prop} {x y : Except Report Sane}
    (h : Outcomes (fun f g ↦ f.code? = g.code? ∧ f.message? = g.message?) V x y) :
    (failure? x).bind Report.message? = (failure? y).bind Report.message? := by
  cases h with
  | ok _ => rfl
  | error hfg => exact hfg.2

namespace Anew

/-- A place that knows the alias. -/
def site : Site := { Repeated.site with names := [("Fresh", .alias fresh)] }

/-- The callable that is annotated. -/
def load : Callable := ⟨"load", .function, ∅⟩

/-- Reading the name of the alias. -/
@[irreducible]
def reading : Except Cause Hint × Run := site.destringify world "Fresh" (Repeated.start .fresh)

/-- The run in which the name of the alias has been read. -/
def run : Run := reading.2

/-- The template that the alias stands for, made under a label. -/
def box (l : Label) : Hint := .template ⟨l, "Box", [], none⟩

/-- The hints that are met. -/
def handled : List Hint := [.deferred 51 "Fresh", .alias fresh, box 54, box 55]

theorem reading_eq : site.destringify world "Fresh" (Repeated.start .fresh) =
    (.ok (.alias fresh), run) := by
  have hhint : reading.1.toOption = some (.alias fresh) := by decide +kernel
  rw [run, ← eq_ok_of_toOption_eq hhint, reading]

/-- No two of these hints share a key. -/
theorem faithful : Faithful Namesake false (· ∈ handled) := by
  have hkeys : ∀ h ∈ handled, ∀ k ∈ handled, h.stableKey = k.stableKey → h = k := by decide +kernel
  refine fun h k hh hk ↦ ⟨fun heq ↦ hkeys h hh k hk heq ▸ .refl namesake_refl h, fun halike ↦ ?_⟩
  simp only [handled, List.mem_cons, List.not_mem_nil, or_false] at hh
  rcases hh with rfl | rfl | rfl | rfl <;> cases halike <;> rfl

theorem inOrder : run.InOrder world (world.under Store.initial) site
    (Store.initial.shown Builtin.classes) Repeated.book (· ∈ handled) :=
  (History.fresh.reliable.inOrder (Repeated.at_start _ _)).read reading_eq

/-- A call visits just the hints that are met, and what the alias stands for there is one of them. -/
def meets (raw : Value) : Bool :=
  let call := Call.slot load returnSlot .positional raw
  (call.given? world run).all (· ∈ handled) &&
    (call.visits world site 3 run).all (fun v ↦ v.hint ∈ handled &&
      (expandAlias world fresh none v.parent? v.run).1.toOption.all
        (Option.all fun e ↦ e.1 ∈ handled)) &&
    (call.run world site 3 run).1.toOption.all fun s ↦ s.table.entries.entries.isEmpty

theorem met {raw : Value} (h : meets raw = true) :
    (Call.slot load returnSlot .positional raw).Met world site Repeated.book (· ∈ handled) 3 run := by
  simp only [meets, Bool.and_eq_true, List.all_eq_true, decide_eq_true_eq] at h
  obtain ⟨⟨hgiven, hvisits⟩, hbound⟩ := h
  have hform (a : Alias) (application? : Option (Label × List Hint))
      (hmem : a.form application? ∈ handled) : a = fresh ∧ application? = none := by
    rcases application? with - | ⟨l, args⟩ <;> simp_all [handled, Alias.form, box]
  refine ⟨⟨fun k hk ↦ ?_, fun v hv ↦ ?_⟩, fun s hs ↦ ?_⟩
  · rw [hk] at hgiven
    exact of_decide_eq_true hgiven
  · obtain ⟨hmem, hvalue⟩ := hvisits v hv
    refine ⟨fun k hk ↦ ?_, fun m o args heq ↦ ?_⟩
    · cases hk with
      | self => exact hmem
      | leaf union _ | flat union _ => simp [union, handled, box] at hmem
      | value form expansion =>
        obtain ⟨rfl, rfl⟩ := hform _ _ (form ▸ hmem)
        rw [expansion] at hvalue
        exact of_decide_eq_true hvalue
    · simp [heq, handled, box] at hmem
  · rw [hs] at hbound
    have hempty : s.table.entries.entries = [] := List.isEmpty_iff.mp hbound
    rw [hempty]
    exact fun e he ↦ absurd he List.not_mem_nil

end Anew

/-- The two spellings of an annotation can be told apart. If `number | string` has been interned, the
refusal of `string | number` is worded in one order or the other, although keys are shared just by
hints that are alike up to the order of members. A name of an alias that is built anew leads to two
keys. -/
theorem spellings_differ :
    (Respelled true .builtin Repeated.site 1 Loaded.load Mixed.text Mixed.hint
        (World.builtin.under Store.initial) (Store.initial.shown Builtin.classes) Repeated.book
        (· ∈ Mixed.handled) Mixed.before Mixed.run ∧
      ¬ Outcomes (fun f g ↦ f.code? = g.code? ∧ f.message? = g.message?) Sane.SameKeys
        (sanitizeSlot .builtin Repeated.site 1 returnSlot .positional ""
          (Loaded.load.annotate returnSlot (.string Mixed.text), Mixed.run)).1
        (sanitizeSlot .builtin Repeated.site 1 returnSlot .positional ""
          (Loaded.load.annotate returnSlot (.hint Mixed.hint), Mixed.run)).1) ∧
    Respelled false Anew.world Anew.site 3 Anew.load "Fresh" (.alias Anew.fresh)
        (Anew.world.under Store.initial) (Store.initial.shown Builtin.classes) Repeated.book
        (· ∈ Anew.handled) (Repeated.start .fresh) Anew.run ∧
      ¬ Outcomes (fun f g ↦ f.code? = g.code? ∧ f.message? = g.message?) Sane.SameKeys
        (sanitizeSlot Anew.world Anew.site 3 returnSlot .positional ""
          (Anew.load.annotate returnSlot (.string "Fresh"), Anew.run)).1
        (sanitizeSlot Anew.world Anew.site 3 returnSlot .positional ""
          (Anew.load.annotate returnSlot (.hint (.alias Anew.fresh)), Anew.run)).1 := by
  constructor
  · refine ⟨?_, fun h ↦ absurd h.message?_eq (by decide +kernel)⟩
    exact
      { faithful := Mixed.faithful
        scope := fun _ ↦ Site.startScope_not_isDeferred (by decide)
        before := ⟨rfl, rfl, Registry.sound_empty, nofun⟩
        reading := Mixed.reading_eq
        inOrder := Mixed.inOrder _
        text := Mixed.met (by decide +kernel) (by decide +kernel)
        hint := Mixed.met (by decide +kernel) (by decide +kernel) }
  · refine ⟨?_, fun h ↦
      absurd (h.mono fun _ _ hst ↦ hst.hint).stableKey_eq (by decide +kernel)⟩
    exact
      { faithful := Anew.faithful
        scope := fun _ ↦ Site.startScope_not_isDeferred (by decide)
        before := Repeated.at_start _ _
        reading := Anew.reading_eq
        inOrder := Anew.inOrder
        text := Anew.met (by decide +kernel)
        hint := Anew.met (by decide +kernel) }

end TypeHints
