import TypeHints.Proofs.Cascade
import TypeHints.Proofs.Coercions

/-!
# What sanitizing reports

Everything that can go wrong while a hint is sanitized is reported in one shape: an error, under the
label of the site that the caller names, with one of the codes of `Code.sanitizing`
(`Diagnostic.Labelled`). A report can be made anywhere below the three ways into reduction, and only
they know the label. That it gets there rests on the wording of causes: all but two are worded as
errors at a site with one of these codes (`Cause.OfSite`), and those two belong to lookups without
trust and to resolving references, neither of which sanitizing does.

So it is enough to know for each action that its failures are such causes (`Run.keeps_ofSite`):

* reading a text fails by what is wrong with the text or with a name in it (`Naming.keeps_ofSite`);
* a raw hint is refused because of one of its leaves, or for want of a key;
* an alias cannot be read, or what it stands for is refused;
* an application is refused for the number of its arguments or for a bound.

The one action that fails by what others have left behind is substitution, which gives out failures
that are kept; they have all been computed at some time, and that is the only condition on the
engine (`diagnostics_labelled`). Crashes are no reports: they are handed on as they are, without a
label.
-/

namespace TypeHints

open Attempt

/-! ### Labels -/

namespace Text

theorem dropLead?_append (old s : List Char) : dropLead? old (old ++ s) = some s := by
  induction old with
  | nil => rfl
  | cons c old ih => rw [List.cons_append, dropLead?, if_pos rfl, ih]

/-- Where a text starts with what is replaced, the result starts with what replaces it. -/
theorem isPrefix_replaceAll {old : String} (hold : old ≠ "") (new s : String) :
    new.toList <+: (replaceAll old new (old ++ s)).toList := by
  have hchars : (old ++ s).toList = old.toList ++ s.toList := String.toList_append
  unfold replaceAll
  rw [String.toList_ofList, hchars]
  cases hcs : old.toList with
  | nil => exact absurd (String.toList_eq_nil_iff.mp hcs) hold
  | cons c cs =>
    have hdrop : dropLead? (c :: cs) (c :: (cs ++ s.toList)) = some s.toList :=
      dropLead?_append (c :: cs) s.toList
    simp only [List.cons_append, List.length_cons, replaceChars, hdrop]
    exact List.prefix_append _ _

end Text

/-- The codes of the failures that sanitizing reports. -/
def Code.sanitizing : List Code :=
  [.arity, .bound, .rawHint, .expression, .notSubscriptable, .returnHint, .identifier,
    .unresolvable]

example : Code.sanitizing.map Code.text = ["HWD1001", "HWD1002", "HWD1003", "HWD1004", "HWD1005",
    "HWD1006", "HWD2001", "HWD2003"] := rfl

/-- A report of sanitizing under the label of a site. -/
structure Diagnostic.Labelled (label : String) (d : Diagnostic) : Prop where
  severity : d.severity = .error
  message : label.toList <+: d.message.toList
  code : d.code ∈ Code.sanitizing

/-! ### Causes -/

/-- A cause is worded as an error at a site, with one of the codes of sanitizing. -/
def Cause.OfSite (c : Cause) : Prop :=
  ∃ code ∈ Code.sanitizing, ∃ message culprits?, c.diagnostic = .siteError code message culprits?

/-- A failure is of a site if it is a crash or has such a cause. -/
def Failure.OfSite (f : Failure) : Prop := ∀ c, f = .cause c → c.OfSite

namespace Cause

/-- Whether a cause is neither the miss of a lookup without trust nor the referent that is no class. -/
def isOfSite : Cause → Bool
  | .unknownName _ _ | .notAClass _ _ _ => false
  | _ => true

/-- All causes but these two are of a site. -/
theorem ofSite {c : Cause} (h : c.isOfSite = true) : c.OfSite := by
  cases c with
  | unknownName _ _ | notAClass _ _ _ => cases h
  | _ => exact ⟨_, by decide, _, _, rfl⟩

/-- The report of a cause of a site is labelled. -/
theorem OfSite.labelled {c : Cause} (h : c.OfSite) (label : String) :
    (c.diagnostic.atSite label).Labelled label := by
  obtain ⟨code, hcode, message, culprits?, heq⟩ := h
  rw [heq]
  exact ⟨rfl, Text.isPrefix_replaceAll (by decide) label message, hcode⟩

end Cause

namespace Failure

theorem ofSite_crash (c : Crash) : (Failure.crash c).OfSite := nofun

theorem ofSite_cause {c : Cause} (h : c.isOfSite = true) : (Failure.cause c).OfSite := by
  rintro _ ⟨⟩
  exact Cause.ofSite h

end Failure

/-! ### Reading texts -/

section Texts

variable {c : Cause}

theorem ofSite_of_validDotted {label text : String} (h : validDotted label text = .error c) : c.OfSite := by
  unfold validDotted at h
  split at h <;> cases h
  exact Cause.ofSite rfl

theorem Registry.ofSite_of_make {label : Label} {kind : RefKind} {name scope : String}
    {owner? : Option Label} {g g' : Registry}
    (h : make label kind name scope owner? g = (.error c, g')) : c.OfSite := by
  unfold make at h
  split at h
  · cases h
  · split at h
    · cases h
      exact ofSite_of_validDotted ‹_›
    · cases h
      exact ofSite_of_validDotted ‹_›
    · cases h

/-- Names are looked up with trust while a text is read, so that nothing is missed. -/
theorem Naming.keeps_ofSite (w : World) :
    Naming.Keeps w (fun _ ↦ True) (fun _ ↦ True) Cause.OfSite where
  fresh := .of_total fun _ _ ↦ ⟨_, _, rfl, trivial, trivial⟩
  classHint id := .of_total fun n _ ↦ by
    obtain ⟨s, hs, -⟩ := Store.classHintOf_apply Cause w.classes id n.store
    exact ⟨_, { n with store := s }, by rw [Naming.onStore, hs], trivial, trivial⟩
  lookup name _ ht := .of_failure fun n c hc ↦ by
    rcases lookup_cases name ht n with ⟨_, -, he⟩ | ⟨-, -, _, _, -, he⟩ | ⟨-, -, _, _, hmake, he⟩ |
      ⟨-, -, _, hname, he⟩ <;> rw [he] at hc <;> cases hc
    · exact Registry.ofSite_of_make hmake
    · exact ofSite_of_validDotted hname
  member r name := .of_failure fun n c hc ↦ by
    rw [onRefs_apply] at hc
    exact Registry.ofSite_of_make (Prod.ext hc rfl)
  sealedTwin r := .of_failure fun n c hc ↦ by
    rw [onRefs_apply, Registry.sealedTwin] at hc
    cases hkind : r.kind with
    | «sealed» =>
      rw [hkind] at hc
      cases hc
      exact Cause.ofSite rfl
    | subscriptable =>
      rw [hkind] at hc
      exact Registry.ofSite_of_make (Prod.ext hc rfl)
  any := trivial
  literal _ _ := trivial
  union _ _ _ := trivial
  tuple _ _ _ := trivial
  array := trivial
  subscripted _ _ _ _ _ := trivial
  expression c hc := by cases hc <;> exact Cause.ofSite rfl

namespace Site

variable (w : World) (site : Site)

/-- The name of a scope is all that can be wrong with it. -/
theorem ofSite_forwardScope :
    Yields (fun _ ↦ True) (site.forwardScope w) (fun _ ↦ True) Cause.OfSite := by
  refine .of_failure fun r c hc ↦ ?_
  rcases forwardScope_cases w site r with ⟨_, -, he⟩ | ⟨-, _, _, -, he⟩ | ⟨-, d, r₁, hmake, he⟩ <;>
    rw [he] at hc <;> cases hc
  obtain ⟨s, hnames, -⟩ := classNames_apply (w := w) Cause site.classStack r
  rw [makeScope, bind_apply_ok hnames] at hmake
  have hcreate := congrArg Prod.fst hmake
  unfold Scope.create at hcreate
  cases hname : validDotted "Forward scope name" site.scopeName with
  | error d =>
    simp only [ofExcept_apply, hname] at hcreate
    cases hcreate
    exact ofSite_of_validDotted hname
  | ok _ =>
    simp only [ofExcept_apply, hname] at hcreate
    cases hcreate

theorem ofSite_destringify (text : String) :
    Yields (fun _ ↦ True) (site.destringify w text) (fun _ ↦ True) Cause.OfSite := by
  refine (ofSite_forwardScope w site).bind fun scope _ ↦ ?_
  have hread : Yields (fun _ ↦ True) (Run.onNames scope (readText w text)) (fun _ ↦ True)
      Cause.OfSite := by
    refine .of_failure fun r c hc ↦ ?_
    rw [Run.onNames_fst] at hc
    exact (yields_readText (Naming.keeps_ofSite w) text).failure _ trivial c hc
  refine hread.bind fun _ _ ↦ Yields.bind (V := fun _ ↦ True) ?_ fun _ _ ↦ .pure trivial
  refine .of_failure fun r c hc ↦ ?_
  rw [log_fst] at hc
  cases hc

end Site

end Texts

/-! ### Raw hints, aliases and applications -/

section Actions

variable {w : World} {f : Failure}

/-- A raw hint is refused because of what is wrong with one of its leaves, or for want of a key. -/
theorem ofSite_of_coerceKeyed {raw : Value} {s : Store}
    (h : (coerceKeyed w raw s).1 = .error f) : f.OfSite := by
  have houtcome := coerceKeyed_outcome w raw s
  rw [h] at houtcome
  rcases Option.or_eq_some_iff.mp houtcome.symm with hforemost | ⟨-, hkey⟩
  · obtain ⟨v, -, hfault⟩ := List.mem_filterMap.mp (Failure.mem_of_foremost hforemost)
    unfold Value.fault? unsupported at hfault
    split at hfault
    · cases hfault
    · split at hfault <;> cases hfault
      · exact Failure.ofSite_cause rfl
      · exact Failure.ofSite_crash _
  · obtain ⟨_, -, rfl⟩ := Option.map_eq_some_iff.mp hkey
    exact Failure.ofSite_crash _

/-- An alias cannot be read, or what it stands for is refused. -/
theorem AliasBody.ofSite_of_hint {name : String} {b : AliasBody} {s : Store}
    (h : (b.hint w name s).1 = .error f) : f.OfSite := by
  cases b with
  | value recipe =>
    obtain ⟨raw, s₁, hbuild⟩ := Recipe.build_ok w.classes recipe s
    have hhint : (AliasBody.value recipe).hint w name s = coerceKeyed w raw s₁ :=
      bind_apply_ok hbuild
    rw [hhint] at h
    exact ofSite_of_coerceKeyed h
  | failure message =>
    cases h
    exact Failure.ofSite_cause rfl
  | thrown v =>
    unfold hint read at h
    simp only [bind_apply, ofExcept_apply] at h
    cases hmessage : thrownMessage w v with
    | ok message =>
      rw [hmessage] at h
      cases h
      exact Failure.ofSite_cause rfl
    | error g =>
      rw [hmessage] at h
      cases h
      obtain ⟨c, rfl⟩ := thrownMessage_error w hmessage
      exact Failure.ofSite_crash c

/-- Reading an alias fails as a site does. -/
theorem ofSite_of_aliasValue {a : Alias} {r : Run} (h : (aliasValue w a r).1 = .error f) :
    f.OfSite := by
  rcases aliasValue_cases w a r with ⟨b, -, he⟩ | ⟨-, he⟩ <;> rw [he] at h
  · exact AliasBody.ofSite_of_hint (s := r.store) h
  · cases h
    exact Failure.ofSite_cause rfl

/-- An application is refused for the number of its arguments or for a bound. -/
theorem Substitution.ofSite_of_compute {hint : Hint} {params : List TypeParameter}
    {args : List Hint} {c : Cause} (h : compute w hint params args = .error c) : c.OfSite := by
  unfold compute at h
  split at h
  · cases h
  · split at h
    · cases h
      exact Cause.ofSite rfl
    · split at h
      · cases h
        exact Cause.ofSite rfl
      · dsimp only at h
        split at h <;> cases h
        rename_i hviolation
        obtain ⟨e, -, he⟩ := List.exists_of_findSome?_eq_some hviolation
        unfold violation? at he
        repeat' split at he
        all_goals cases he
        exact Cause.ofSite rfl

/-- Kept outcomes fail as new ones do, since all of them have been computed. -/
theorem Run.ofSite_of_substitute {hint : Hint} {params : List TypeParameter} {args : List Hint}
    {r : Run} (hc : r.engine.substitutions.Computed)
    (h : (substitute w hint params args r).1 = .error f) : f.OfSite := by
  obtain ⟨w', l, k, ps, as, hout⟩ : (Substitution.build (w.under r.store) r.store.next hint params
    args r.engine.substitutions).1.Computed := hc.build_fst
  rw [substitute_fst, hout] at h
  have hresult : (Substitution.outcome w' l k ps as).result =
      (Substitution.compute w' k ps as).map _ := rfl
  cases hcompute : Substitution.compute w' k ps as with
  | error c =>
    rw [hresult, hcompute] at h
    cases h
    rintro _ ⟨⟩
    exact Substitution.ofSite_of_compute hcompute
  | ok t? =>
    rw [hresult, hcompute] at h
    cases h

end Actions

/-! ### Calls -/

section Calls

variable {w : World} {site : Site} {depth : Nat} {label : String} {r : Run}

/-- An action that keeps no outcome of its own and fails as a site does. -/
theorem Attempt.Yields.ofSite_of_adds {α : Type} {a : Attempt Run Failure α}
    (ha : Follows (Run.Adds (fun _ ↦ True) fun _ _ ↦ False) a)
    (hfailure : ∀ r f, (a r).1 = .error f → f.OfSite) :
    Yields (fun r ↦ r.engine.substitutions.Computed) a (fun _ ↦ True) Failure.OfSite :=
  ⟨fun r hc key out hout ↦ ((ha r).known key out hout).elim (hc key out) False.elim,
    fun _ _ _ _ ↦ trivial, fun r _ ↦ hfailure r⟩

/-- Every action of a step of reduction fails as a site does. -/
theorem Run.keeps_ofSite (w : World) (site : Site) :
    Run.Keeps w site (fun r ↦ r.engine.substitutions.Computed) Failure.OfSite where
  quiet r r' h hc := by rwa [h.engine]
  intern h := .ofSite_of_adds (adds_intern trivial) fun _ _ hf ↦ nomatch hf
  substitute hint params args := by
    refine ⟨fun r hc ↦ ?_, fun _ _ _ _ ↦ trivial, fun r hc _ ↦ ofSite_of_substitute hc⟩
    have hadds : Adds (fun _ ↦ True) (fun _ out ↦ out.Computed) r
        (substitute w hint params args r).2 := adds_substitute fun l ↦ ⟨_, l, _, _, _, rfl⟩
    exact fun key out hout ↦ (hadds.known key out hout).elim (hc key out) id
  aliasValue a := .ofSite_of_adds (adds_aliasValue w a) fun _ _ ↦ ofSite_of_aliasValue
  destringify text := by
    refine .ofSite_of_adds ((adds_destringify w site text).mapFailure _) fun r f hf ↦ ?_
    have hread : Yields (fun _ ↦ True) ((site.destringify w text).mapFailure .cause)
        (fun _ ↦ True) Failure.OfSite :=
      (Site.ofSite_destringify w site text).mapFailure fun c hc ↦ by
        rintro _ ⟨⟩
        exact hc
    exact hread.failure r trivial f hf
  emptyUnion := Failure.ofSite_cause rfl

/-- The shape of the result of a callable is refused for itself alone. -/
theorem Hint.ofSite_of_returned {h : Hint} {kind : CallableKind} {callable : String} {c : Cause}
    (hc : h.returned kind callable = .error c) : c.OfSite := by
  unfold returned promised generated at hc
  repeat' split at hc
  all_goals first
    | cases hc; exact Cause.ofSite rfl
    | cases hc

/-- So does shaping a slot. -/
theorem ofSite_shapeSlot (callable : Callable) (name : String) (kind : ParameterKind)
    (hint : Hint) : Yields (fun r ↦ r.engine.substitutions.Computed)
      (shapeSlot w site callable name kind hint) (fun _ ↦ True) Failure.OfSite := by
  have hresolve : Yields (fun r ↦ r.engine.substitutions.Computed)
      (resolveDeferred w site hint) (fun _ ↦ True) Failure.OfSite := by
    unfold resolveDeferred
    split
    · exact (Run.keeps_ofSite w site).destringify _
    · exact .pure trivial
  unfold shapeSlot
  split
  · refine hresolve.bind fun h _ ↦ .ofExcept (fun _ _ ↦ trivial) fun f hf ↦ ?_
    rcases hreturned : h.returned callable.kind callable.name with c | k <;>
      rw [hreturned] at hf <;> cases hf
    rintro _ ⟨⟩
    exact Hint.ofSite_of_returned hreturned
  · split
    · exact hresolve.bind fun _ _ ↦ .pure trivial
    · exact .pure trivial
    · exact .pure trivial

/-- Every failure of a call is one of its site. -/
theorem Call.ofSite_run (w : World) (site : Site) (depth : Nat) (c : Call) :
    Yields (fun r ↦ r.engine.substitutions.Computed) (c.run w site depth) (fun _ ↦ True)
      Failure.OfSite := by
  have hcoerce (raw : Value) : Yields (fun r ↦ r.engine.substitutions.Computed)
      (Run.coerceRoot w raw) (fun _ ↦ True) Failure.OfSite :=
    Yields.bind (.ofSite_of_adds (Run.adds_onStore _) fun _ _ hf ↦ ofSite_of_coerceKeyed hf) fun hint _ ↦
      (Run.keeps_ofSite w site).intern hint
  have hreduce (hint : Hint) := (Run.keeps_ofSite w site).reduce (Failure.ofSite_crash .tooDeep)
    depth hint c.parent?
  cases c with
  | root raw => exact (hcoerce raw).bind fun hint _ ↦ hreduce hint
  | slot callable name kind raw =>
    exact ((hcoerce raw).bind fun hint _ ↦ ofSite_shapeSlot callable name kind hint).bind
      fun hint _ ↦ hreduce hint
  | child parent hint =>
    exact ((Run.keeps_ofSite w site).intern hint).bind fun hint _ ↦ hreduce hint

/-- The diagnostic that a call ends in is labelled. -/
theorem Call.labelled {c : Call} {d : Diagnostic} (hc : r.engine.substitutions.Computed)
    (h : (mapFailure (Failure.report label) (c.run w site depth) r).1 = .error (.diagnostic d)) :
    d.Labelled label := by
  simp only [mapFailure] at h
  rcases hrun : c.run w site depth r with ⟨f | s, r'⟩ <;> rw [hrun] at h
  · have hsite : f.OfSite := (ofSite_run w site depth c).failure_of_run hc hrun
    cases f with
    | cause cause =>
      cases h
      exact (hsite cause rfl).labelled label
    | crash _ => cases h
  · cases h

variable (w site depth label)

/-- Whichever way a hint is sanitized, a diagnostic is an error under the label that the caller
names, and its code is none of those that other operations report. All that is asked of the engine
is that the outcomes that it keeps have been computed. -/
theorem diagnostics_labelled (hc : r.engine.substitutions.Computed) :
    (∀ raw d, (sanitizeRoot w site depth raw label r).1 = .error (.diagnostic d) →
      d.Labelled label) ∧
    (∀ callable slot kind d, (sanitizeSlot w site depth slot kind label (callable, r)).1 =
      .error (.diagnostic d) → d.Labelled label) ∧
    ∀ parent hint d, (sanitizeChild w site depth parent hint label r).1 = .error (.diagnostic d) →
      d.Labelled label := by
  refine ⟨fun raw d h ↦ ?_, fun callable slot kind d h ↦ ?_, fun parent hint d h ↦ ?_⟩
  · exact Call.labelled (c := .root raw) hc h
  · cases hraw : callable.annotations.get? slot with
    | none =>
      unfold sanitizeSlot at h
      simp only [hraw] at h
      cases h
    | some raw =>
      by_cases hne : raw = .undefined
      · subst hne
        unfold sanitizeSlot at h
        simp only [hraw] at h
        cases h
      · rw [Call.sanitizeSlot_fst hraw hne] at h
        exact Call.labelled hc h
  · rw [Call.sanitizeChild_eq_run] at h
    exact Call.labelled hc h

end Calls

namespace Refused

/-- The hint `Array<>`. -/
def hint : Hint := .subscripted 50 (.template Builtin.array) []

/-- The result of an asynchronous callable that is no promise. -/
def load : Callable := ⟨"load", .async, .ofList [(returnSlot, .hint (.primitive .string))]⟩

/-- A run in which `Array<>` has been refused, and the refusal is kept. -/
def after : Run :=
  ((Call.root (.hint hint)).run .builtin Repeated.site depthLimit (Repeated.start .fresh)).2

end Refused

/-- No hint at all, a result that is no promise, and an application that has been refused before. -/
theorem diagnostics_labelled_of_refused :
    Refused.after.engine.substitutions.Computed ∧
      (∃ d, (sanitizeRoot .builtin Repeated.site depthLimit .null "load() " Refused.after).1 =
        .error (.diagnostic d) ∧ d.Labelled "load() ") ∧
      (∃ d, (sanitizeSlot .builtin Repeated.site depthLimit returnSlot .positional "load() "
        (Refused.load, Refused.after)).1 = .error (.diagnostic d) ∧ d.Labelled "load() ") ∧
      ∃ d, (sanitizeChild .builtin Repeated.site depthLimit .ignorable Refused.hint "load() "
        Refused.after).1 = .error (.diagnostic d) ∧ d.Labelled "load() " := by
  have hc : Refused.after.engine.substitutions.Computed :=
    Call.computed_run (r := Repeated.start .fresh) Substitution.Cache.computed_empty (Prod.eta _).symm
  obtain ⟨hroot, hslot, hchild⟩ := diagnostics_labelled .builtin Repeated.site depthLimit "load() " hc
  have hnull : (sanitizeRoot .builtin Repeated.site depthLimit .null "load() " Refused.after).1 =
      .error (.diagnostic ⟨.rawHint, .error, "load() type hint null unsupported.", some [.null],
        none⟩) := rfl
  have hload : (sanitizeSlot .builtin Repeated.site depthLimit returnSlot .positional "load() "
      (Refused.load, Refused.after)).1 =
      .error (.diagnostic ⟨.returnHint, .error,
        "load() async callable load() return type hint string not Promise<...>.", none, none⟩) := rfl
  have hagain : (sanitizeChild .builtin Repeated.site depthLimit .ignorable Refused.hint "load() "
      Refused.after).1 =
      .error (.diagnostic ⟨.arity, .error,
        "load() type hint Array<> subscripted by no type arguments.", none, none⟩) := rfl
  exact ⟨hc, ⟨_, hnull, hroot _ _ hnull⟩, ⟨_, hload, hslot _ _ _ _ hload⟩, _, hagain,
    hchild _ _ _ hagain⟩

end TypeHints
