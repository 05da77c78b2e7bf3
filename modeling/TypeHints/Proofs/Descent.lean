import TypeHints.Proofs.Bindings
import TypeHints.Proofs.Sharing
import TypeHints.Proofs.Universe

/-!
# Descending through applications

A hint without parameters is checked from the outside in: it is sanitized, and where it comes to a
template, the parameters of this template are sanitized below it, and so on. `descend` follows a
path of positions in this way. `descend_reaches` says that it arrives at the very argument that the
path leads to, however often templates are nested in themselves.

Each model on the way binds the parameters of its template to the arguments of the application that
it stands for, and has none of them in its guard (`Sane.StandsFor`). Both survive a further
application of the same template, since its bindings win and the parameters that it binds leave the
guard. So the induction is on the path, with this as the invariant:

* a root that is the first hint of its engine is reduced itself (`standsFor_sanitizeRoot`);
* below a model that stands for an application, a parameter leads to its argument, and this is a
  ground hint again, which is reduced in one step (`standsFor_sanitizeChild`);
* a leaf ends in a model of itself, since no override takes its place.

What the engine keeps of applications it keeps under labels, which stand for identity; so two
applications in a hint are one if they have one label (`Hint.LabelsApart`). The book of a hint has
just its applications in it, and bounds are those that parameters have at the start.
-/

namespace TypeHints

open Attempt

/-! ### Ground hints -/

namespace Hint

/-- Whether a hint is a leaf: a primitive, a class, a literal, a tuple or a forward reference. -/
def isLeaf : Hint → Bool
  | .primitive _ | .ofClass _ | .literal _ _ | .tuple _ _ | .forwardRef _ => true
  | _ => false

/-- The hint at a path of argument positions. -/
def at? : Hint → List Nat → Option Hint
  | h, [] => some h
  | .subscripted _ _ args, i :: path => args[i]?.bind fun a ↦ at? a path
  | _, _ :: _ => none

/-- What a hint is reduced to when its parts are left alone: the origin of an application, and any
other hint itself. -/
def reduct : Hint → Hint
  | .subscripted _ o _ => o.toHint
  | h => h

/-- Whether a hint is an application under a label. -/
def isApplied (l : Label) : Hint → Bool
  | .subscripted m _ _ => m = l
  | _ => false

/-- Applications in a hint that share a label are the same. -/
def LabelsApart (h : Hint) : Prop :=
  ∀ k ∈ h.parts, ∀ m ∈ h.parts, k.isApplied k.label = true → m.isApplied k.label = true → k = m

instance (h : Hint) : Decidable h.LabelsApart :=
  inferInstanceAs (Decidable (∀ k ∈ h.parts, ∀ m ∈ h.parts, _ → _ → k = m))

end Hint

/-- A parameter accepts an argument: a plain one lies below the bound, if that is plain. Variadic
parameters accept anything. -/
def World.Accepts (w : World) (p : TypeParameter) (a : Hint) : Prop :=
  p.variadic = true ∨ ∀ bound b c, w.bound? p = some bound → bound.plain? = some b →
    a.plain? = some c → isPlainSubtype w.classes c b = true

/-- Hints that are built from leaves by applying templates with different parameters to at least one
and at most as many arguments, none of which violates a bound. -/
inductive Hint.Ground (w : World) : Hint → Prop
  | leaf {h : Hint} (leaf : h.isLeaf = true) : Ground w h
  | applied {label : Label} {t : Template} {args : List Hint} (nodup : t.params.Nodup)
      (some : args ≠ []) (fit : args.length ≤ t.params.length)
      (accepted : ∀ e ∈ t.params.zip args, w.Accepts e.1 e.2)
      (ground : ∀ a ∈ args, Ground w a) :
      Ground w (.subscripted label (.template t) args)

namespace Hint.Ground

variable {w : World}

theorem ne_parameter {h : Hint} (hg : Ground w h) (p : TypeParameter) : h ≠ .parameter p := by
  rintro rfl
  cases hg with
  | leaf leaf => cases leaf

theorem reduct_ne_any {h : Hint} (hg : Ground w h) : h.reduct ≠ .any := by
  cases hg with
  | leaf leaf =>
    cases h with
    | primitive _ | ofClass _ | literal _ _ | tuple _ _ | forwardRef _ => exact Hint.noConfusion
    | _ => cases leaf
  | applied => exact Hint.noConfusion

/-- One position further, a ground hint is the application of a template with a parameter at this
position, and the path goes on from its argument. -/
theorem at?_cons {h k : Hint} {i : Nat} {path : List Nat} (hg : Ground w h)
    (hk : h.at? (i :: path) = some k) : ∃ l t args p a, h = .subscripted l (.template t) args ∧
      t.params[i]? = some p ∧ (p, a) ∈ t.params.zip args ∧ a ∈ args ∧ Ground w a ∧
      a.at? path = some k := by
  cases hg with
  | leaf leaf =>
    cases h with
    | primitive _ | ofClass _ | literal _ _ | tuple _ _ | forwardRef _ => cases hk
    | _ => cases leaf
  | @applied l t args _ _ fit _ ground =>
    obtain ⟨a, ha, hk⟩ := Option.bind_eq_some_iff.mp hk
    obtain ⟨hi, rfl⟩ := List.getElem?_eq_some_iff.mp ha
    have hp : i < t.params.length := by omega
    have hmem : (t.params[i], args[i]) ∈ t.params.zip args := by
      rw [← List.getElem_zip (h := by rw [List.length_zip]; omega)]
      exact List.getElem_mem _
    exact ⟨l, t, args, t.params[i], args[i], rfl, List.getElem?_eq_getElem hp, hmem,
      List.getElem_mem hi, ground _ (List.getElem_mem hi), hk⟩

/-- Hints at paths of a ground hint are ground. -/
theorem of_at? {k : Hint} {path : List Nat} : ∀ {h : Hint}, Ground w h → h.at? path = some k →
    Ground w k := by
  induction path with
  | nil =>
    intro h hg hk
    obtain rfl : h = k := by simpa [at?] using hk
    exact hg
  | cons i path ih =>
    intro h hg hk
    obtain ⟨_, _, _, _, a, _, _, _, _, ha, hk⟩ := hg.at?_cons hk
    exact ih ha hk

end Hint.Ground

/-! ### Bindings of ground applications -/

namespace Substitution

/-- The bindings of different parameters are what they are paired with. -/
theorem get?_ofList_zip {params : List TypeParameter} (h : params.Nodup) {args : List Hint}
    {p : TypeParameter} {a : Hint} (hmem : (p, a) ∈ params.zip args) :
    (Dict.ofList (params.zip args)).get? p = some a := by
  have hnodup := nodup_zip h args
  show (Dict.empty.insertAll (params.zip args)).get? p = some a
  rw [Dict.get?_insertAll hnodup, Dict.find_of_mem hnodup hmem]
  rfl

/-- What a parameter accepts violates no bound. -/
theorem violation_of_accepts {w : World} (hint : Hint) {e : TypeParameter × Hint}
    (h : w.Accepts e.1 e.2) : violation? w hint e = none := by
  unfold violation?
  rcases h with hvariadic | hbound
  · rw [if_pos hvariadic]
  · split
    · rfl
    · cases hb : w.bound? e.1 with
      | none => rfl
      | some bound =>
        dsimp only
        split
        · rename_i b c hbound' hc
          rw [if_pos (hbound bound b c hb hbound' hc)]
        · rfl

/-- A ground application binds each parameter that has an argument to this argument. -/
theorem compute_ground {w : World} {l : Label} {t : Template} {args : List Hint}
    (hg : Hint.Ground w (.subscripted l (.template t) args)) :
    compute w (.subscripted l (.template t) args) t.params args =
      .ok (some (Dict.ofList (t.params.zip args))) := by
  cases hg with
  | leaf leaf => cases leaf
  | applied nodup hsome fit accepted ground =>
    have hargs : 0 < args.length := List.length_pos_iff.mpr hsome
    have hparams : t.params.isEmpty = false := by
      rw [List.isEmpty_eq_false_iff, ← List.length_pos_iff]
      omega
    have hsame : Hint.sameList args (t.params.map .parameter) = false := by
      refine decide_eq_false fun heq ↦ ?_
      obtain ⟨a, rest, rfl⟩ := List.exists_cons_of_ne_nil hsome
      have ha : a ∈ t.params.map Hint.parameter := heq ▸ List.mem_cons_self
      obtain ⟨p, -, rfl⟩ := List.mem_map.mp ha
      exact (ground _ List.mem_cons_self).ne_parameter p rfl
    -- no argument is a parameter, so no pair is left out
    have hkept : kept t.params args = t.params.zip args := by
      refine List.filter_eq_self.mpr fun e he ↦ decide_eq_true ?_
      exact (ground _ (List.of_mem_zip he).2).ne_parameter e.1
    have hviolation : (Dict.ofList (t.params.zip args)).entries.findSome?
        (violation? w (.subscripted l (.template t) args)) = none := by
      refine List.findSome?_eq_none_iff.mpr fun e he ↦ ?_
      exact violation_of_accepts _ (accepted e (Dict.mem_ofList he))
    have hfit : ¬ t.params.length < args.length := by omega
    simp only [compute, hparams, hsame, Bool.or_self, Bool.false_eq_true, if_false, hfit, hkept,
      hviolation, List.isEmpty_eq_false_iff.mpr hsome]

end Substitution

/-! ### What applications are kept under -/

/-- The applications in a hint by their labels, and the bounds of parameters in a world. -/
def Hint.book (w : World) (h : Hint) : Book where
  hint l := (h.parts.find? (isApplied l)).getD .any
  bound? := w.bound?

theorem Hint.LabelsApart.book_has {w : World} {h : Hint} (hl : h.LabelsApart) {l : Label}
    {o : Origin} {args : List Hint} (hmem : Hint.subscripted l o args ∈ h.parts) :
    (h.book w).Has w l o args := by
  refine ⟨?_, fun _ _ ↦ rfl⟩
  cases hfind : h.parts.find? (Hint.isApplied l) with
  | none =>
    have hnot := List.find?_eq_none.mp hfind _ hmem
    exact absurd (decide_eq_true rfl) hnot
  | some k =>
    have hk : k.isApplied l = true := List.find?_some hfind
    have hkmem : k ∈ h.parts := List.mem_of_find?_eq_some hfind
    simp only [Hint.book, hfind, Option.getD_some]
    exact (hl _ hmem k hkmem (decide_eq_true rfl) hk).symm

/-- What is kept of applications is in a book, and the world is `W`. -/
structure Run.ByBook (w W : World) (B : Book) (r : Run) : Prop where
  honest : r.engine.substitutions.Honest w.classes B
  world : w.under r.store = W

theorem Run.Quiet.byBook {w W : World} {B : Book} {r r' : Run} (h : Run.Quiet r r')
    (hr : r.ByBook w W B) : r'.ByBook w W B :=
  ⟨h.engine ▸ hr.honest, (h.under w).trans hr.world⟩

/-! ### One step -/

/-- A model stands for a hint: it holds what the hint is reduced to, and if that is the template of
an application, it binds the parameters of the template to the arguments and has none of them in its
guard. -/
structure Sane.StandsFor (s : Sane) (h : Hint) : Prop where
  hint : s.hint = h.reduct
  bound : ∀ l t args, h = .subscripted l (.template t) args → ∀ p a, (p, a) ∈ t.params.zip args →
    s.table.get? p = some a ∧ Hint.parameter p ∉ s.guard.hints

section Steps

variable {w W : World} {site : Site} {B : Book} {r : Run}

/-- An application in the book binds what it pairs. -/
theorem substitute_ground {l : Label} {t : Template} {args : List Hint} (hr : r.ByBook w W B)
    (hB : B.Has W l (.template t) args) (hg : Hint.Ground W (.subscripted l (.template t) args)) :
    ∃ table r', Run.substitute w (.subscripted l (.template t) args) t.params args r =
        (.ok (some table), r') ∧ table.entries = Dict.ofList (t.params.zip args) ∧
      r'.ByBook w W B := by
  obtain ⟨hhonest, rfl⟩ := hr
  have hentries := Run.substitute_eq hhonest hB
  have hparams : (Origin.template t).params = t.params := rfl
  rw [hparams, Substitution.compute_ground hg] at hentries
  have hkeeps := (hhonest.build (w := w.under r.store) rfl hB r.store.next).1
  rcases hs : Run.substitute w (.subscripted l (.template t) args) t.params args r with
    ⟨f | - | table, r'⟩ <;> rw [hs] at hentries
  · cases hentries
  · cases hentries
  · have hr' := congrArg Prod.snd hs
    subst hr'
    refine ⟨table, _, rfl, ?_, hkeeps, rfl⟩
    exact Option.some.inj (Except.ok.inj hentries)

/-- A leaf without an override ends in a model of itself. -/
theorem reduceStep_leaf (hoverrides : site.config.overrides = ∅) {h : Hint} (hh : h.isLeaf = true)
    (p? : Option Sane) : reduceStep w site h p? r = Run.settle h p? none r := by
  cases h with
  | ofClass c =>
    show reduceClass w site c p? r = _
    rw [reduceClass, hoverrides]
    rfl
  | primitive _ | literal _ _ | tuple _ _ | forwardRef _ => rfl
  | _ => cases hh

/-- The bindings of an application win over those of the parent, and the parameters that it binds
leave the guard. -/
theorem standsFor_create {l m : Label} {t : Template} {args : List Hint} {table : Table}
    (hnodup : t.params.Nodup) (htable : table.entries = Dict.ofList (t.params.zip args))
    (p? : Option Sane) :
    (Sane.create m (.template t) p? (some table)).StandsFor
      (.subscripted l (.template t) args) := by
  refine ⟨rfl, fun l' t' args' heq p a hpa ↦ ?_⟩
  cases heq
  have hlookup : Table.lookup? (some table) p = some a := by
    show table.entries.get? p = some a
    rw [htable]
    exact Substitution.get?_ofList_zip hnodup hpa
  have hproper : Table.Proper (some table) := by
    intro t ht
    cases ht
    rw [htable]
    exact Dict.nodup_keys_ofList _
  constructor
  · show (Table.merge m _ (some table)).get? p = some a
    rw [Table.get?_merge hproper, hlookup]
    rfl
  · intro hguard
    have hunbound := (Guard.parameter_mem_withoutRebound.mp hguard).2
    rw [hlookup] at hunbound
    cases hunbound

/-- A ground hint below any parent is reduced in one step, to a model that stands for it. -/
theorem standsFor_reduceStep (hoverrides : site.config.overrides = ∅) (hr : r.ByBook w W B)
    {h : Hint} (hg : Hint.Ground W h)
    (hB : ∀ l o args, h = .subscripted l o args → B.Has W l o args) (p? : Option Sane) :
    ∃ s r', reduceStep w site h p? r = (.ok (.done s), r') ∧ s.StandsFor h ∧ r'.ByBook w W B := by
  cases hg with
  | leaf hleaf =>
    refine ⟨_, _, reduceStep_leaf hoverrides hleaf p?, ⟨?_, fun l t args heq ↦ ?_⟩,
      (quiet_settle h p? none r).byBook hr⟩
    · cases h <;> first
        | rfl
        | cases hleaf
    · rw [heq] at hleaf
      cases hleaf
  | @applied label t args nodup hsome fit accepted ground =>
    obtain ⟨table, r₁, hsubst, htable, hr₁⟩ :=
      substitute_ground hr (hB _ _ _ rfl) (.applied nodup hsome fit accepted ground)
    obtain ⟨r₂, hlog, hquiet⟩ := Run.log_apply site
      ((Hint.subscripted label (.template t) args).repr ++ " binds " ++ bindingText table) r₁
    have hstep : reduceStep w site (.subscripted label (.template t) args) p? r =
        Run.settle (.template t) p? (some table) r₂ := by
      show reduceTemplate w site label t args p? r = _
      rw [reduceTemplate, bind_apply_ok hsubst]
      exact bind_apply_ok hlog
    exact ⟨_, _, hstep, standsFor_create nodup htable p?,
      (trans_of _ hquiet (quiet_settle (.template t) p? (some table) r₂)).byBook hr₁⟩

end Steps

/-! ### Calls -/

/-- Sanitize the parameter at each position of a path, below what the positions before it came to;
nothing where there is no template or no such parameter. -/
def descend (w : World) (site : Site) (depth : Nat) (label : String) :
    List Nat → Sane → Attempt Run Report (Option Sane)
  | [], s => pure (some s)
  | i :: path, s =>
    match s.hint with
    | .template t =>
      match t.params[i]? with
      | some p => do
        let s' ← sanitizeChild w site depth s (.parameter p) label
        descend w site depth label path s'
      | none => pure none
    | _ => pure none

section Calls

variable {w W : World} {site : Site} {B : Book} {r : Run} (depth : Nat) (label : String)

/-- A root that is the first hint of its engine is reduced itself. -/
theorem standsFor_sanitizeRoot (hoverrides : site.config.overrides = ∅) (hr : r.ByBook w W B)
    (hi : r.engine.interner = .empty) {h : Hint} (hg : Hint.Ground W h)
    (hB : ∀ l o args, h = .subscripted l o args → B.Has W l o args) :
    ∃ s r', sanitizeRoot w site (depth + 1) (.hint h) label r = (.ok s, r') ∧ s.StandsFor h ∧
      r'.ByBook w W B := by
  have hinterned : (Interner.empty.intern h).1 = h := by
    rcases Interner.intern_cases h .empty with ⟨-, he⟩ | ⟨-, _, hfound, -⟩ | ⟨-, -, he⟩
    · rw [he]
    · cases hfound
    · rw [he]
  have hcoerced : (Run.coerceRoot w (.hint h) r).1 = .ok h := by
    show Except.ok (r.engine.interner.intern h).1 = .ok h
    rw [hi, hinterned]
  have hr₁ : (Run.coerceRoot w (.hint h) r).2.ByBook w W B := ⟨hr.honest, hr.world⟩
  obtain ⟨s, r₂, hstep, hs, hr₂⟩ := standsFor_reduceStep hoverrides hr₁ hg hB none
  refine ⟨s, r₂, ?_, hs, hr₂⟩
  rw [sanitizeRoot_eq (Prod.ext hcoerced rfl), mapFailure, reduce_succ_done hstep]

/-- Below a model that stands for an application, a parameter comes to its argument. -/
theorem standsFor_sanitizeChild (hoverrides : site.config.overrides = ∅) (hr : r.ByBook w W B)
    {l : Label} {t : Template} {args : List Hint} {s : Sane}
    (hs : s.StandsFor (.subscripted l (.template t) args)) {p : TypeParameter} {a : Hint}
    (hpa : (p, a) ∈ t.params.zip args) (hg : Hint.Ground W a)
    (hB : ∀ l o args, a = .subscripted l o args → B.Has W l o args) :
    ∃ s' r', sanitizeChild w site (depth + 2) s (.parameter p) label r = (.ok s', r') ∧
      s'.StandsFor a ∧ r'.ByBook w W B := by
  obtain ⟨hbound, hguard⟩ := hs.bound l t args rfl p a hpa
  obtain ⟨r₁, hparameter, hquiet⟩ := reduceStep_bound w site r hbound hguard
  obtain ⟨s', r₂, hstep, hs', hr₂⟩ := standsFor_reduceStep hoverrides (hquiet.byBook hr) hg hB
    (some (s.expanding r.store.next (.parameter p)))
  refine ⟨s', r₂, ?_, hs', hr₂⟩
  show mapFailure (Failure.report label) (reduce w site (depth + 2) (.parameter p) (some s)) r = _
  rw [mapFailure, reduce_succ_goOn hparameter, reduce_succ_done hstep]

/-- Descending from a model that stands for a hint leads to one that stands for the hint at the
path. -/
theorem standsFor_descend (hoverrides : site.config.overrides = ∅) {root k : Hint}
    (hB : ∀ l o args, .subscripted l o args ∈ root.parts → B.Has W l o args) (path : List Nat) :
    ∀ {h : Hint} {s : Sane} {r : Run}, h ∈ root.parts → Hint.Ground W h → s.StandsFor h →
      r.ByBook w W B → h.at? path = some k →
      ∃ s' r', descend w site (depth + 2) label path s r = (.ok (some s'), r') ∧
        s'.StandsFor k := by
  induction path with
  | nil =>
    intro h s r _ _ hs _ hk
    obtain rfl : h = k := by simpa [Hint.at?] using hk
    exact ⟨s, r, rfl, hs⟩
  | cons i path ih =>
    intro h s r hmem hg hs hr hk
    obtain ⟨l, t, args, p, a, rfl, hp, hpa, ha, hga, hk⟩ := hg.at?_cons hk
    have hamem : a ∈ root.parts := Hint.mem_parts_of_children ha root hmem
    have hBa : ∀ l o args, a = .subscripted l o args → B.Has W l o args :=
      fun l o args heq ↦ hB l o args (heq ▸ hamem)
    obtain ⟨s₁, r₁, hchild, hs₁, hr₁⟩ :=
      standsFor_sanitizeChild depth label hoverrides hr hs hpa hga hBa
    obtain ⟨s', r', hrest, hs'⟩ := ih hamem hga hs₁ hr₁ hk
    refine ⟨s', r', ?_, hs'⟩
    have hhint : s.hint = .template t := hs.hint
    simp only [descend, hhint, hp]
    rw [bind_apply_ok hchild, hrest]

end Calls

/-- Sanitizing a ground hint against a fresh engine and then a parameter at each position of a path
comes to the hint at this path: to the template, if it is an application, and else to this very
hint. Nothing on the way is ignored. -/
theorem descend_reaches {w : World} {site : Site} {depth : Nat} {label : String} {r : Run}
    {h k : Hint} {path : List Nat} (hoverrides : site.config.overrides = ∅)
    (hfresh : r.engine = .fresh) (hdepth : 2 ≤ depth) (hg : h.Ground (w.under r.store))
    (hlabels : h.LabelsApart) (hk : h.at? path = some k) :
    ∃ s r₁ s' r', sanitizeRoot w site depth (.hint h) label r = (.ok s, r₁) ∧
      descend w site depth label path s r₁ = (.ok (some s'), r') ∧ s'.hint = k.reduct ∧
        s'.isIgnorable = false := by
  obtain ⟨depth, rfl⟩ := Nat.exists_eq_add_of_le' hdepth
  have hr : r.ByBook w (w.under r.store) (h.book (w.under r.store)) := by
    refine ⟨?_, rfl⟩
    rw [hfresh]
    exact Substitution.Cache.honest_empty _ _
  have hi : r.engine.interner = .empty := by rw [hfresh]; rfl
  have hB : ∀ l o args, h = .subscripted l o args →
      (h.book (w.under r.store)).Has (w.under r.store) l o args :=
    fun l o args heq ↦ hlabels.book_has (heq ▸ h.self_mem_parts)
  obtain ⟨s, r₁, hroot, hs, hr₁⟩ :=
    standsFor_sanitizeRoot (depth + 1) label hoverrides hr hi hg hB
  obtain ⟨s', r', hdescend, hs'⟩ := standsFor_descend depth label hoverrides
    (fun l o args hmem ↦ hlabels.book_has hmem) path h.self_mem_parts hg hs hr₁ hk
  refine ⟨s, r₁, s', r', hroot, hdescend, hs'.hint, decide_eq_false ?_⟩
  rw [hs'.hint]
  exact (hg.of_at? hk).reduct_ne_any

/-! ### A map in a map

In `Map<string, Map<Set<Date>, Box<number>>>` the parameters of `Map` are bound at two depths, and
the parameter of `Box` is bounded by `number`.
-/

namespace NestedMaps

/-- The parameter of `Box`. -/
def content : TypeParameter := ⟨50, "N", false⟩

/-- The template `Box<N extends number>`. -/
def box : Template := ⟨51, "Box", [content], none⟩

/-- The template beside the builtin namespace. -/
def world : World where
  classes := Builtin.classes
  params := ⟨[(content.id, ⟨some (.primitive .number), none⟩)]⟩
  aliases := ∅

/-- The map that is the value of the other one. -/
def inner : Hint :=
  .subscripted 54 (.template Builtin.map)
    [.subscripted 52 (.template Builtin.set) [Builtin.classHint 13],
      .subscripted 53 (.template box) [.primitive .number]]

/-- The whole hint. -/
def hint : Hint := .subscripted 55 (.template Builtin.map) [.primitive .string, inner]

/-- A place that logs, without names of its own. -/
def site : Site := ⟨⟨true, ∅, defaultScopeName⟩, defaultScopeName, [], [], none⟩

/-- A run in which nothing has been sanitized yet. -/
def start : Run := ⟨{ Store.initial with next := 56 }, .fresh, none, []⟩

/-- An application of parameters without bounds is ground if its arguments are. -/
theorem ground_of_unbounded {w : World} {l : Label} {t : Template} {args : List Hint}
    (hnodup : t.params.Nodup) (hsome : args ≠ []) (hfit : args.length ≤ t.params.length)
    (hparams : ∀ p ∈ t.params, w.bound? p = none) (hargs : ∀ a ∈ args, a.Ground w) :
    Hint.Ground w (.subscripted l (.template t) args) := by
  refine .applied hnodup hsome hfit (fun e he ↦ .inr fun bound b c hbound _ _ ↦ ?_) hargs
  rw [hparams _ (List.of_mem_zip he).1] at hbound
  cases hbound

theorem ground_box : Hint.Ground world (.subscripted 53 (.template box) [.primitive .number]) := by
  refine .applied (by decide) (by decide) (by decide) (fun e he ↦ .inr ?_) ?_
  · obtain rfl := List.mem_singleton.mp he
    intro bound b c hbound hb hc
    cases hbound
    cases hb
    cases hc
    rfl
  · exact fun a ha ↦ List.mem_singleton.mp ha ▸ .leaf rfl

theorem ground_hint : hint.Ground (world.under start.store) := by
  have hworld : world.under start.store = world := World.under_eq rfl rfl
  have hset : Hint.Ground world (.subscripted 52 (.template Builtin.set) [Builtin.classHint 13]) :=
    ground_of_unbounded (by decide) (by decide) (by decide) (by decide)
      fun a ha ↦ List.mem_singleton.mp ha ▸ .leaf rfl
  have hinner : inner.Ground world :=
    ground_of_unbounded (by decide) (by decide) (by decide) (by decide)
      (List.forall_mem_cons.mpr ⟨hset, fun a ha ↦ List.mem_singleton.mp ha ▸ ground_box⟩)
  rw [hworld]
  exact ground_of_unbounded (by decide) (by decide) (by decide) (by decide)
    (List.forall_mem_cons.mpr ⟨.leaf rfl, fun a ha ↦ List.mem_singleton.mp ha ▸ hinner⟩)

end NestedMaps

/-- Behind the second arguments of both maps the content of the box is found. -/
theorem descend_reaches_content : ∃ s r₁ s' r',
    sanitizeRoot NestedMaps.world NestedMaps.site depthLimit (.hint NestedMaps.hint) ""
        NestedMaps.start = (.ok s, r₁) ∧
      descend NestedMaps.world NestedMaps.site depthLimit "" [1, 1, 0] s r₁ = (.ok (some s'), r') ∧
        s'.hint = .primitive .number ∧ s'.isIgnorable = false :=
  descend_reaches (k := .primitive .number) rfl rfl (show 2 ≤ depthLimit by decide)
    NestedMaps.ground_hint (show NestedMaps.hint.LabelsApart by decide) rfl

end TypeHints
