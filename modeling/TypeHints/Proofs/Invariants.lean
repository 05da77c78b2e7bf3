import TypeHints.Proofs.Steps

/-!
# What reading and reducing keep

Reading a text is made of a few actions on names, and a step of reduction of a few actions on a run.
Whatever all of these keep, whole texts and whole reductions keep as well. The actions are listed
once for all invariants:

* `Naming.Keeps` for reading. An invariant of the names goes along with a property of hints that
  composite hints take over from their parts, and with one of failures.
* `Run.Keeps` for reduction. An action that only gives out labels or logs lines keeps an invariant
  that does not depend on these (`Run.Keeps.of_quiet`), so that only five actions are left.

`Site.yields_readText` carries an invariant through a text, by induction on its syntax tree, and
`Run.Keeps.reduce` through a reduction, by induction on the depth. Growth, calm, order and the
absence of crashes are such invariants; each one is proved of the listed actions and nothing else.

A failure of reading is one of an action, or it is about the text itself (`Cause.OfExpression`).
Running out of depth is the one failure of reduction that belongs to no action.
-/

namespace TypeHints

open Attempt

/-- The values of outcomes that are collected are values of these outcomes. -/
theorem ok_mem_of_collect {ε α : Type} {rs : List (Except ε α)} :
    ∀ {xs : List α}, collect rs = .ok xs → ∀ x ∈ xs, .ok x ∈ rs := by
  induction rs with
  | nil =>
    intro xs h
    cases h
    simp
  | cons r rs ih =>
    intro xs h
    cases r with
    | error e => cases h
    | ok y =>
      simp only [collect] at h
      cases hrs : collect rs with
      | error e =>
        rw [hrs] at h
        cases h
      | ok ys =>
        rw [hrs] at h
        cases h
        intro x hx
        rcases List.mem_cons.mp hx with rfl | hx
        · exact List.mem_cons_self
        · exact List.mem_cons_of_mem _ (ih hrs x hx)

/-- The failure of outcomes that are collected is the failure of one of them. -/
theorem error_mem_of_collect {ε α : Type} {rs : List (Except ε α)} {e : ε}
    (h : collect rs = .error e) : .error e ∈ rs := by
  induction rs with
  | nil => cases h
  | cons r rs ih =>
    cases r with
    | error d =>
      cases h
      exact List.mem_cons_self
    | ok x =>
      simp only [collect] at h
      cases hrs : collect rs with
      | error d =>
        rw [hrs] at h
        cases h
        exact List.mem_cons_of_mem _ (ih hrs)
      | ok xs =>
        rw [hrs] at h
        cases h

/-! ### Reading texts -/

/-- What can be wrong with a text apart from its names. -/
inductive Cause.OfExpression : Cause → Prop
  | invalid (text : String) : OfExpression (.invalidExpression text)
  | unsupported (text part : String) : OfExpression (.unsupportedSyntax text part)
  | member (text : String) (owner : Hint) (name : String) :
      OfExpression (.noClassMember text owner name)
  | arguments (text : String) (hint : Hint) : OfExpression (.notSubscriptable text hint)

/-- The actions that reading a text is made of keep `P`, and what they give has `V`, a property that
composite hints take over from their parts. Their failures have `E`, and so has what can be wrong
with a text itself. -/
structure Naming.Keeps (w : World) (P : Naming → Prop) (V : Hint → Prop) (E : Cause → Prop) :
    Prop where
  fresh : Yields P (onStore Store.fresh) (fun _ ↦ True) E
  classHint : ∀ id, Yields P (onStore (Store.classHintOf w.classes id)) (fun c ↦ V (.ofClass c)) E
  lookup : ∀ name trust?, isTrusted trust? = true → Yields P (Naming.lookup name trust?) V E
  member : ∀ r name, Yields P (onRefs fun l ↦ Registry.member l r name) (fun r ↦ V (.forwardRef r)) E
  sealedTwin : ∀ r, Yields P (onRefs fun l ↦ Registry.sealedTwin l r) (fun r ↦ V (.forwardRef r)) E
  any : V .any
  literal : ∀ l v, V (.literal l v)
  union : ∀ l hs, (∀ h ∈ hs, V h) → V (.union l hs)
  tuple : ∀ l hs, (∀ h ∈ hs, V h) → V (.tuple l hs)
  array : V (.template Builtin.array)
  subscripted : ∀ l (o : Origin) hs, V o.toHint → (∀ h ∈ hs, V h) → V (.subscripted l o hs)
  expression : ∀ c : Cause, c.OfExpression → E c

namespace Expression

variable {w : World} {P : Naming → Prop} {V : Hint → Prop} {E : Cause → Prop}
  (hP : Naming.Keeps w P V E) (text : String)

include hP

theorem yields_keywordHint (k : Keyword) : Yields P (keywordHint k) V E := by
  cases k <;> first
    | exact .pure hP.any
    | exact hP.fresh.bind fun _ _ ↦ .pure (hP.literal _ _)
    | exact hP.lookup _ _ rfl

theorem yields_memberHint (owner : Hint) (name : String) :
    Yields P (memberHint w text owner name) V E := by
  unfold memberHint
  split
  · exact (hP.member _ _).bind fun _ hr ↦ .pure hr
  · split
    · exact (hP.classHint _).bind fun _ hc ↦ .pure hc
    · exact .fail (hP.expression _ (.member _ _ _))
  · exact .fail (hP.expression _ (.member _ _ _))

theorem yields_memberPath (names : List String) :
    ∀ h : Hint, V h → Yields P (memberPath w text h names) V E := by
  induction names with
  | nil => exact fun _ hh ↦ .pure hh
  | cons name rest ih => exact fun h _ ↦ (yields_memberHint hP text h name).bind ih

theorem yields_applyArguments {origin : Hint} {args : List Hint} (ho : V origin)
    (hargs : ∀ h ∈ args, V h) : Yields P (applyArguments text origin args) V E := by
  unfold applyArguments
  split
  · exact hP.fresh.bind fun _ _ ↦ .pure (hP.subscripted _ _ _ ho hargs)
  · exact hP.fresh.bind fun _ _ ↦ .pure (hP.subscripted _ _ _ ho hargs)
  · exact (hP.sealedTwin _).bind fun _ hr ↦ hP.fresh.bind fun _ _ ↦
      .pure (hP.subscripted _ _ _ hr hargs)
  · exact .fail (hP.expression _ (.arguments _ _))

omit hP in
theorem yields_collect {rs : List (Except Cause Hint)}
    (h : (∀ k, .ok k ∈ rs → V k) ∧ ∀ c, .error c ∈ rs → E c) :
    Yields P (ofExcept (collect rs)) (fun hs ↦ ∀ k ∈ hs, V k) E :=
  .ofExcept (fun _ hs k hk ↦ h.1 k (ok_mem_of_collect hs k hk)) fun c hc ↦
    h.2 c (error_mem_of_collect hc)

omit hP in
mutual

/-- An invariant is kept over a syntax tree, by induction on the tree. -/
theorem yields_convert (hP : Naming.Keeps w P V E) :
    ∀ node : Node, Yields P (convert w text node) V E
  | .keyword k => yields_keywordHint hP k
  | .reference _ members none => (hP.lookup _ _ rfl).bind (yields_memberPath hP text members)
  | .reference _ members (some args) =>
    (hP.lookup _ _ rfl).bind fun h hh ↦ (yields_memberPath hP text members h hh).bind fun _ ho ↦
      (yields_convertAll hP args).bind fun _ hrs ↦ (yields_collect hrs).bind fun _ ↦
        yields_applyArguments hP text ho
  | .union nodes =>
    (yields_convertAll hP nodes).bind fun _ hrs ↦ (yields_collect hrs).bind fun hs hhs ↦
      hP.fresh.bind fun l _ ↦ .pure (hP.union l hs hhs)
  | .array node => (yields_convert hP node).bind fun h hh ↦ hP.fresh.bind fun l _ ↦
      .pure (hP.subscripted l _ [h] hP.array (by simpa using hh))
  | .tuple nodes =>
    (yields_convertAll hP nodes).bind fun _ hrs ↦ (yields_collect hrs).bind fun hs hhs ↦
      hP.fresh.bind fun l _ ↦ .pure (hP.tuple l hs hhs)
  | .literal v => hP.fresh.bind fun l _ ↦ .pure (hP.literal l v)
  | .group node => yields_convert hP node
  | .unsupported _ _ _ => .fail (hP.expression _ (.unsupported _ _))

theorem yields_convertAll (hP : Naming.Keeps w P V E) : ∀ nodes : List Node,
    Yields P (convertAll w text nodes)
      (fun rs ↦ (∀ h, .ok h ∈ rs → V h) ∧ ∀ c, .error c ∈ rs → E c) E
  | [] => .pure (by simp)
  | node :: nodes => by
    have hhead := yields_convert hP node
    have htail := yields_convertAll hP nodes
    refine ⟨fun n hn ↦ ?_, fun n hn rs hrs ↦ ?_, fun n hn c hc ↦ ?_⟩
    · simp only [convertAll]
      have hn' := htail.keeps _ (hhead.keeps n hn)
      rcases hr : convertAll w text nodes (convert w text node n).2 with ⟨e | rs, n'⟩ <;>
        rw [hr] at hn' <;> exact hn'
    · simp only [convertAll] at hrs
      have hrest := htail.value _ (hhead.keeps n hn)
      rcases hr : convertAll w text nodes (convert w text node n).2 with ⟨e | rs', n'⟩ <;>
        rw [hr] at hrs hrest <;> cases hrs
      obtain ⟨hvalues, hcauses⟩ := hrest rs' rfl
      refine ⟨fun h hh ↦ ?_, fun c hc ↦ ?_⟩
      · rcases List.mem_cons.mp hh with hh | hh
        · exact hhead.value n hn h hh.symm
        · exact hvalues h hh
      · rcases List.mem_cons.mp hc with hc | hc
        · exact hhead.failure n hn c hc.symm
        · exact hcauses c hc
    · simp only [convertAll] at hc
      have hrest := htail.failure _ (hhead.keeps n hn)
      rcases hr : convertAll w text nodes (convert w text node n).2 with ⟨e | rs', n'⟩ <;>
        rw [hr] at hc hrest <;> cases hc
      exact hrest c rfl

end

/-- So it is over a text that is parsed first. -/
theorem yields_evaluate : Yields P (evaluate w text) V E := by
  unfold evaluate
  split
  · exact .fail (hP.expression _ (.invalid _))
  · exact yields_convert _ hP _

end Expression

/-- Reading a text keeps what its actions keep. -/
theorem Site.yields_readText {w : World} {P : Naming → Prop} {V : Hint → Prop} {E : Cause → Prop}
    (hP : Naming.Keeps w P V E) (text : String) : Yields P (readText w text) V E := by
  unfold readText
  split
  · exact hP.lookup _ _ rfl
  · exact Expression.yields_evaluate hP text

/-! ### Reduction -/

/-- The actions that a step of reduction is made of keep `P`, and their failures have `E`. -/
structure Run.Keeps (w : World) (site : Site) (P : Run → Prop) (E : Failure → Prop) : Prop where
  quiet : ∀ r r', Quiet r r' → P r → P r'
  intern : ∀ h, Yields P (Run.intern h) (fun _ ↦ True) E
  substitute : ∀ hint params args,
    Yields P (Run.substitute w hint params args) (fun _ ↦ True) E
  aliasValue : ∀ a, Yields P (TypeHints.aliasValue w a) (fun _ ↦ True) E
  destringify : ∀ text, Yields P ((site.destringify w text).mapFailure .cause) (fun _ ↦ True) E
  emptyUnion : E (.cause .emptyUnion)

namespace Run.Keeps

variable {w : World} {site : Site} {P : Run → Prop} {E : Failure → Prop} (hP : Keeps w site P E)

include hP

/-- An action that cannot fail and only gives out labels or logs keeps everything. -/
theorem of_quiet {ε α : Type} {D : ε → Prop} {a : Attempt Run ε α} (ha : Follows Quiet a)
    (hok : ∀ r, ∃ x r', a r = (.ok x, r')) : Yields P a (fun _ ↦ True) D := by
  refine ⟨fun r hr ↦ hP.quiet _ _ (ha r) hr, fun _ _ _ _ ↦ trivial, fun r _ e he ↦ ?_⟩
  obtain ⟨x, r', hx⟩ := hok r
  rw [hx] at he
  cases he

theorem fresh : Yields P Run.fresh (fun _ ↦ True) E :=
  hP.of_quiet quiet_fresh fun _ ↦ ⟨_, _, rfl⟩

theorem world : Yields P (Run.world w) (fun _ ↦ True) E :=
  hP.of_quiet (quiet_world w) fun _ ↦ ⟨_, _, rfl⟩

theorem model (hint : Hint) (p? : Option Sane) (table? : Option Table) :
    Yields P (Run.model hint p? table?) (fun _ ↦ True) E :=
  hP.of_quiet (quiet_model hint p? table?) fun _ ↦ ⟨_, _, rfl⟩

theorem expanding (s : Sane) (h : Hint) : Yields P (Run.expanding s h) (fun _ ↦ True) E :=
  hP.of_quiet (quiet_expanding s h) fun _ ↦ ⟨_, _, rfl⟩

theorem ancestry (hint : Hint) (p? : Option Sane) :
    Yields P (Run.ancestry hint p?) (fun _ ↦ True) E := by
  refine hP.of_quiet (quiet_ancestry hint p?) fun r ↦ ?_
  obtain ⟨s, r', hs, -⟩ := ancestry_apply hint p? r
  exact ⟨s, r', hs⟩

theorem log (message : String) : Yields P (site.log message) (fun _ ↦ True) E := by
  refine hP.of_quiet (quiet_log site message) fun r ↦ ?_
  obtain ⟨r', hr', -⟩ := log_apply site message r
  exact ⟨(), r', hr'⟩

theorem settle (hint : Hint) (p? : Option Sane) (table? : Option Table) :
    Yields P (Run.settle hint p? table?) (fun _ ↦ True) E :=
  (hP.model hint p? table?).bind fun _ _ ↦ .pure trivial

theorem guardKey (a : Alias) (application? : Option (Label × List Hint)) :
    Yields P (TypeHints.guardKey a application?) (fun _ ↦ True) E := by
  cases application? with
  | none => exact .pure trivial
  | some app => exact hP.intern (.subscripted app.1 (.alias a) app.2)

theorem aliasTable (a : Alias) (application? : Option (Label × List Hint)) :
    Yields P (TypeHints.aliasTable w a application?) (fun _ ↦ True) E := by
  cases application? with
  | none => exact .pure trivial
  | some app => exact hP.substitute (.subscripted app.1 (.alias a) app.2) a.params app.2

theorem expandAlias (a : Alias) (application? : Option (Label × List Hint)) (p? : Option Sane) :
    Yields P (TypeHints.expandAlias w a application? p?) (fun _ ↦ True) E := by
  refine (hP.ancestry _ _).bind fun _ _ ↦ (hP.guardKey _ _).bind fun _ _ ↦ ?_
  split
  · exact .pure trivial
  · exact (hP.aliasTable _ _).bind fun _ _ ↦ (hP.model _ _ _).bind fun _ _ ↦
      (hP.expanding _ _).bind fun _ _ ↦ (hP.aliasValue _).bind fun _ _ ↦ .pure trivial

theorem reduceClass (c : ClassHint) (p? : Option Sane) :
    Yields P (TypeHints.reduceClass w site c p?) (fun _ ↦ True) E := by
  unfold TypeHints.reduceClass
  split
  · exact hP.settle _ _ _
  · refine (hP.ancestry _ _).bind fun _ _ ↦ ?_
    split
    · exact hP.settle _ _ _
    · exact (hP.log _).bind fun _ _ ↦ hP.fresh.bind fun _ _ ↦ (hP.destringify _).bind fun _ _ ↦
        .pure trivial

theorem reduceUnion (label : Label) (hs : List Hint) (p? : Option Sane) :
    Yields P (TypeHints.reduceUnion label hs p?) (fun _ ↦ True) E := by
  unfold TypeHints.reduceUnion
  split
  · exact .pure trivial
  · split
    · exact .fail hP.emptyUnion
    · exact .pure trivial
    · refine Yields.bind (V := fun _ ↦ True) ?_ fun _ _ ↦ hP.settle _ _ _
      unfold canonicalUnion
      split
      · exact .pure trivial
      · exact hP.fresh.bind fun _ _ ↦ hP.intern _

theorem reduceParameter (p : TypeParameter) (p? : Option Sane) :
    Yields P (TypeHints.reduceParameter w site p p?) (fun _ ↦ True) E := by
  refine (hP.ancestry _ _).bind fun _ _ ↦ ?_
  split
  · exact (hP.log _).bind fun _ _ ↦ .pure trivial
  · refine (hP.expanding _ _).bind fun _ _ ↦ hP.world.bind fun _ _ ↦ ?_
    split
    · exact .pure trivial
    · exact .pure trivial
    · exact .pure trivial
    · exact hP.fresh.bind fun _ _ ↦ .pure trivial

theorem reduceTemplate (label : Label) (t : Template) (args : List Hint) (p? : Option Sane) :
    Yields P (TypeHints.reduceTemplate w site label t args p?) (fun _ ↦ True) E := by
  refine (hP.substitute _ _ _).bind fun table? _ ↦ ?_
  cases table? with
  | none => exact hP.settle _ _ _
  | some _ => exact (hP.log _).bind fun _ _ ↦ hP.settle _ _ _

/-- An alias, whether it is applied or not, keeps what is kept by its application and its value. -/
theorem reduceAlias (a : Alias) (application? : Option (Label × List Hint)) (p? : Option Sane) :
    Yields P (TypeHints.reduceAlias w site a application? p?) (fun _ ↦ True) E := by
  refine (hP.expandAlias _ _ _).bind fun o _ ↦ ?_
  cases o with
  | none => exact (hP.log _).bind fun _ _ ↦ .pure trivial
  | some _ => exact (hP.intern _).bind fun _ _ ↦ .pure trivial

/-- A step of reduction keeps what its actions keep, whatever the hint is. -/
theorem reduceStep (hint : Hint) (p? : Option Sane) :
    Yields P (TypeHints.reduceStep w site hint p?) (fun _ ↦ True) E := by
  unfold TypeHints.reduceStep
  split
  · exact .pure trivial
  · exact hP.reduceClass _ _
  · exact hP.reduceUnion _ _ _
  · exact hP.reduceParameter _ _
  · exact hP.reduceTemplate _ _ _ _
  · exact hP.reduceAlias _ _ _
  · exact hP.reduceAlias _ _ _
  · exact (hP.destringify _).bind fun _ _ ↦ .pure trivial
  all_goals exact hP.settle _ _ _

/-- Reduction keeps what its actions keep. -/
theorem reduce (htooDeep : E (.crash .tooDeep)) (depth : Nat) : ∀ (hint : Hint) (p? : Option Sane),
    Yields P (TypeHints.reduce w site depth hint p?) (fun _ ↦ True) E := by
  induction depth with
  | zero => exact fun _ _ ↦ .fail htooDeep
  | succ depth ih =>
    intro hint p?
    refine (hP.reduceStep hint p?).bind fun st _ ↦ ?_
    cases st with
    | done _ => exact .pure trivial
    | goOn h q? => exact ih h q?

end Run.Keeps

end TypeHints
