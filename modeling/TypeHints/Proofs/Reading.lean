import TypeHints.Proofs.Agreement
import TypeHints.Proofs.Growth
import TypeHints.Proofs.Likeness

/-!
# Reading a text twice

A text is read against a scope, a registry and a store, and reading it changes all three. Two
readings of one text from two states need not give one hint: they make literals under different
labels, and references too where neither state has them. What has to be compared is the outcome up
to likeness, and the states only as far as reading looks at them.

`Naming.Comparable` lists what two such states have to agree on for two readings of a text to agree.
It speaks only of the few actions that reading is made of: to give out a label, to find the hint of
a class, to look up a name, to make a member and to make a sealed twin. `Expression.convert_agree`
lifts it to expressions by induction on the expression, and `Site.readText_agree` to whole texts.

One comparison is used throughout. A text that is read again, after a first reading has left its
traces, gives a hint that is alike, with the very same references (`Site.readText_again`). The first
reading stays below some later state, and the second one starts above it (`Naming.after`): what the
first one has found or made is still there, and so it is found.

A site reads its texts against its forward scope, which is made when it is first asked for.
`Site.destringify_inv` opens such a reading: the scope is created or found, the text is read against
it, and the engine takes over the references.
-/

namespace TypeHints

open Attempt Hint

section Collect

variable {ε δ α β : Type} {E : ε → δ → Prop} {V : α → β → Prop}

/-- Outcomes that correspond are collected into outcomes that correspond. -/
theorem outcomes_collect {xs : List (Except ε α)} {ys : List (Except δ β)}
    (h : List.Forall₂ (Outcomes E V) xs ys) :
    Outcomes E (List.Forall₂ V) (collect xs) (collect ys) := by
  induction h with
  | nil => exact .ok .nil
  | @cons x y xs ys hd _ ih =>
    cases hd with
    | error he => exact .error he
    | ok hxy =>
      simp only [collect]
      generalize collect xs = rest, collect ys = rest' at ih
      cases ih with
      | ok hrest => exact .ok (.cons hxy hrest)
      | error he => exact .error he

end Collect

namespace Naming

variable {w : World} {ρ : ForwardRef → ForwardRef → Prop} {mixed : Bool} {C : Comparison Naming}

/-- What two states have to agree on for two readings to agree. -/
structure Comparable (w : World) (ρ : ForwardRef → ForwardRef → Prop) (mixed : Bool)
    (C : Comparison Naming) : Prop where
  /-- The limit on the first reading is kept backwards. -/
  backward : C.Backward Grows
  fresh : Agree C (Cause.Alike ρ mixed) (fun _ _ ↦ True) (onStore Store.fresh)
    (onStore Store.fresh)
  classHint : ∀ id, Agree C (Cause.Alike ρ mixed) Eq (onStore (Store.classHintOf w.classes id))
    (onStore (Store.classHintOf w.classes id))
  lookup : ∀ name trust?, isTrusted trust? = true →
    Agree C (Cause.Alike ρ mixed) (Hint.Alike ρ mixed) (Naming.lookup name trust?)
      (Naming.lookup name trust?)
  member : ∀ r s name, ρ r s → Agree C (Cause.Alike ρ mixed) ρ
    (onRefs fun l ↦ Registry.member l r name) (onRefs fun l ↦ Registry.member l s name)
  sealedTwin : ∀ r s, ρ r s → Agree C (Cause.Alike ρ mixed) ρ
    (onRefs fun l ↦ Registry.sealedTwin l r) (onRefs fun l ↦ Registry.sealedTwin l s)

end Naming

namespace Expression

open Naming

variable {w : World} {ρ : ForwardRef → ForwardRef → Prop} {mixed : Bool} {C : Comparison Naming}
  (hC : Comparable w ρ mixed C) (text : String)

include hC

/-- Two readings of a keyword agree. -/
theorem keywordHint_agree (k : Keyword) :
    Agree C (Cause.Alike ρ mixed) (Hint.Alike ρ mixed) (keywordHint k) (keywordHint k) := by
  have fresh : Agree C (Cause.Alike ρ mixed) (Hint.Alike ρ mixed)
      (do return .literal (← onStore Store.fresh) .undefined)
      (do return .literal (← onStore Store.fresh) .undefined) :=
    hC.fresh.bind hC.backward (fun _ ↦ .pure _) fun _ _ _ ↦ .pure (.literal _ _ _)
  cases k <;> first
    | exact .pure .any
    | exact fresh
    | exact hC.lookup _ _ rfl

/-- A member of hints that are alike is alike. -/
theorem memberHint_agree {h k : Hint} (hk : Hint.Alike ρ mixed h k) (name : String) :
    Agree C (Cause.Alike ρ mixed) (Hint.Alike ρ mixed) (memberHint w text h name)
      (memberHint w text k name) := by
  have hfail : Cause.Alike ρ mixed (.noClassMember text h name) (.noClassMember text k name) :=
    .noClassMember text hk name
  cases hk with
  | forwardRef hr =>
    exact (hC.member _ _ name hr).bind hC.backward (fun _ ↦ .pure _) fun _ _ hr' ↦
      .pure (.forwardRef hr')
  | ofClass c =>
    simp only [memberHint]
    split
    · refine (hC.classHint _).bind hC.backward (fun _ ↦ .pure _) ?_
      rintro c _ rfl
      exact .pure (.ofClass c)
    · exact .fail hfail
  | _ => exact .fail hfail

/-- So is a member of a member, and so on. -/
theorem memberPath_agree (names : List String) : ∀ {h k : Hint}, Hint.Alike ρ mixed h k →
    Agree C (Cause.Alike ρ mixed) (Hint.Alike ρ mixed) (memberPath w text h names)
      (memberPath w text k names) := by
  induction names with
  | nil => exact fun hk ↦ .pure hk
  | cons name rest ih =>
    exact fun hk ↦ (memberHint_agree hC text hk name).bind hC.backward
      (grows_memberPath w text rest) fun _ _ ↦ ih

/-- Applications of hints that are alike to arguments that are alike are alike. -/
theorem applyArguments_agree {h k : Hint} (hk : Hint.Alike ρ mixed h k) {hs ks : List Hint}
    (hargs : List.Forall₂ (Hint.Alike ρ mixed) hs ks) :
    Agree C (Cause.Alike ρ mixed) (Hint.Alike ρ mixed) (applyArguments text h hs)
      (applyArguments text k ks) := by
  have hall : AlikeAll ρ mixed hs ks := alikeAll_iff_forall₂.mpr hargs
  have hfail : Cause.Alike ρ mixed (.notSubscriptable text h) (.notSubscriptable text k) :=
    .notSubscriptable text hk
  cases hk with
  | template t =>
    exact hC.fresh.bind hC.backward (fun _ ↦ .pure _) fun _ _ _ ↦
      .pure (.appliedTemplate _ _ t hall)
  | «alias» a =>
    exact hC.fresh.bind hC.backward (fun _ ↦ .pure _) fun _ _ _ ↦
      .pure (.appliedAlias _ _ a hall)
  | forwardRef hr =>
    refine (hC.sealedTwin _ _ hr).bind hC.backward
      (fun _ ↦ (grows_onStore Store.grows_fresh).bind fun _ ↦ .pure _) fun _ _ hr' ↦ ?_
    exact hC.fresh.bind hC.backward (fun _ ↦ .pure _) fun _ _ _ ↦ .pure (.appliedRef _ _ hr' hall)
  | _ => exact .fail hfail

mutual

/-- Two readings of an expression agree. -/
theorem convert_agree : ∀ node : Node,
    Agree C (Cause.Alike ρ mixed) (Hint.Alike ρ mixed) (convert w text node) (convert w text node)
  | .keyword k => keywordHint_agree hC k
  | .reference root members none =>
    (hC.lookup root _ rfl).bind hC.backward (fun h ↦ grows_memberPath w text members h)
      fun _ _ hk ↦ memberPath_agree hC text members hk
  | .reference root members (some args) => by
    refine (hC.lookup root _ rfl).bind hC.backward (fun h ↦ ?_) fun h k hk ↦ ?_
    · exact (grows_memberPath w text members h).bind fun _ ↦ (grows_convertAll w text args).bind
        fun _ ↦ (Follows.ofExcept _).bind fun _ ↦ grows_applyArguments text _ _
    refine (memberPath_agree hC text members hk).bind hC.backward (fun h ↦ ?_) fun h k hk ↦ ?_
    · exact (grows_convertAll w text args).bind fun _ ↦ (Follows.ofExcept _).bind fun _ ↦
        grows_applyArguments text _ _
    refine (convertAll_agree args).bind hC.backward
      (fun _ ↦ (Follows.ofExcept _).bind fun _ ↦ grows_applyArguments text _ _) fun _ _ hrs ↦ ?_
    exact (Agree.ofExcept (outcomes_collect hrs)).bind hC.backward
      (fun _ ↦ grows_applyArguments text _ _) fun _ _ ↦ applyArguments_agree hC text hk
  | .union nodes => by
    refine (convertAll_agree nodes).bind hC.backward (fun _ ↦ (Follows.ofExcept _).bind fun _ ↦
      (grows_onStore Store.grows_fresh).bind fun _ ↦ .pure _) fun _ _ hrs ↦ ?_
    refine (Agree.ofExcept (outcomes_collect hrs)).bind hC.backward
      (fun _ ↦ (grows_onStore Store.grows_fresh).bind fun _ ↦ .pure _) fun _ ks hks ↦ ?_
    exact hC.fresh.bind hC.backward (fun _ ↦ .pure _) fun _ _ _ ↦
      .pure (.union _ _ (alikeAll_iff_forall₂.mpr hks) (.refl ks) fun _ ↦ rfl)
  | .array node => by
    refine (convert_agree node).bind hC.backward
      (fun _ ↦ (grows_onStore Store.grows_fresh).bind fun _ ↦ .pure _) fun _ _ hk ↦ ?_
    exact hC.fresh.bind hC.backward (fun _ ↦ .pure _) fun _ _ _ ↦
      .pure (.appliedTemplate _ _ _ (.cons hk .nil))
  | .tuple nodes => by
    refine (convertAll_agree nodes).bind hC.backward (fun _ ↦ (Follows.ofExcept _).bind fun _ ↦
      (grows_onStore Store.grows_fresh).bind fun _ ↦ .pure _) fun _ _ hrs ↦ ?_
    refine (Agree.ofExcept (outcomes_collect hrs)).bind hC.backward
      (fun _ ↦ (grows_onStore Store.grows_fresh).bind fun _ ↦ .pure _) fun _ ks hks ↦ ?_
    exact hC.fresh.bind hC.backward (fun _ ↦ .pure _) fun _ _ _ ↦
      .pure (.tuple _ _ (alikeAll_iff_forall₂.mpr hks))
  | .literal v => hC.fresh.bind hC.backward (fun _ ↦ .pure _) fun _ _ _ ↦ .pure (.literal _ _ v)
  | .group node => convert_agree node
  | .unsupported _ _ _ => .fail (.same _)

theorem convertAll_agree : ∀ nodes : List Node,
    Agree C (Cause.Alike ρ mixed)
      (List.Forall₂ (Outcomes (Cause.Alike ρ mixed) (Hint.Alike ρ mixed)))
      (convertAll w text nodes) (convertAll w text nodes)
  | [] => .pure .nil
  | node :: nodes => by
    intro n m hnm hok
    have hhead := convert_agree node n m hnm
    simp only [convertAll] at hok ⊢
    rcases hn : convert w text node n with ⟨x, n'⟩
    rcases hm : convert w text node m with ⟨y, m'⟩
    have htail := convertAll_agree nodes n' m'
    have hgrows := grows_convertAll w text nodes n'
    rcases hn' : convertAll w text nodes n' with ⟨e | xs, n''⟩ <;>
      rcases hm' : convertAll w text nodes m' with ⟨d | ys, m''⟩ <;>
      simp only [AgreeAt, hn, hm, hn', hm'] at hok hhead htail hgrows ⊢ <;>
      obtain ⟨hxy, hrel⟩ := hhead (hC.backward _ _ hgrows hok) <;>
      obtain ⟨hout, hrel'⟩ := htail hrel hok <;> cases hout
    · rename_i he
      exact ⟨.error he, hrel'⟩
    · rename_i hys
      exact ⟨.ok (.cons hxy hys), hrel'⟩

end

/-- Two readings of a text as an expression agree. -/
theorem evaluate_agree : Agree C (Cause.Alike ρ mixed) (Hint.Alike ρ mixed) (evaluate w text)
    (evaluate w text) := by
  unfold evaluate
  split
  · exact .fail (.same _)
  · exact convert_agree hC _ _

end Expression

namespace Site

/-- Two readings of a text agree. -/
theorem readText_agree {w : World} {ρ : ForwardRef → ForwardRef → Prop} {mixed : Bool}
    {C : Comparison Naming} (hC : Naming.Comparable w ρ mixed C) (text : String) :
    Agree C (Cause.Alike ρ mixed) (Hint.Alike ρ mixed) (readText w text) (readText w text) := by
  unfold readText
  split
  · exact hC.lookup _ _ rfl
  · exact Expression.evaluate_agree hC text

end Site

/-! ### Reading a text again -/

namespace Naming

/-- The first run stays below a state, and the second one starts above it. -/
def after (last : Naming) : Comparison Naming where
  rel _ m := last.Grows m
  ok n := n.Grows last

variable {last : Naming}

/-- What holds of the outcomes alone is enough: the second run only grows. -/
theorem agree_after {α β : Type} {E : Cause → Cause → Prop} {V : α → β → Prop}
    {a : Attempt Naming Cause α} {b : Attempt Naming Cause β} (hb : Follows Grows b)
    (h : ∀ n m, last.Grows m → (a n).2.Grows last → Outcomes E V (a n).1 (b m).1) :
    Agree (after last) E V a b :=
  fun n m hm hn ↦ ⟨h n m hm hn, trans_of Grows hm (hb m)⟩

theorem grows_of_after {α : Type} {a : Attempt Naming Cause α} (ha : Follows Grows a)
    {n m : Naming} (hm : last.Grows m) (hn : (a n).2.Grows last) : n.Grows m :=
  trans_of _ (ha n) (trans_of _ hn hm)

/-- No reference is ever registered under a key for which none could be made, and making one fails
alike. -/
theorem make_error_again {label : Label} {kind : RefKind} {name scope : String}
    {owner? : Option Label} {c : Cause} {g g₁ g' : Registry}
    (hmake : Registry.make label kind name scope owner? g = (.error c, g₁)) (h : g.Grows g') :
    g'.refs.get? (Registry.refKey kind name scope) = none ∧
      ∀ label' owner?', Registry.make label' kind name scope owner?' g' = (.error c, g') := by
  rcases Registry.make_cases label kind name scope owner? g with
    ⟨r, -, he⟩ | ⟨-, -, he⟩ | ⟨hnone, hinvalid, d, he, hfail⟩ <;> rw [he] at hmake <;> cases hmake
  have hnone' : g'.refs.get? (Registry.refKey kind name scope) = none := by
    cases hg : g'.refs.get? (Registry.refKey kind name scope) with
    | none => rfl
    | some r =>
      rcases h.added _ _ hg with hr | ⟨hk, hvalid⟩
      · rw [hnone] at hr
        cases hr
      · obtain ⟨-, hn, hs⟩ := Registry.refKey_inj hvalid.name hvalid.scope hk.symm
        rw [← hn, ← hs, hvalid.name, hvalid.scope] at hinvalid
        cases hinvalid
  exact ⟨hnone', fun label' owner?' ↦ hfail label' owner?' g' hnone'⟩

/-- A reference that has been made is found again, and making it again changes nothing. -/
theorem make_again {label : Label} {kind : RefKind} {name scope : String} {owner? : Option Label}
    (label' : Label) {g g' : Registry}
    (h : (Registry.make label kind name scope owner? g).2.Grows g') :
    Registry.make label' kind name scope owner? g' =
      ((Registry.make label kind name scope owner? g).1, g') := by
  rcases hm : Registry.make label kind name scope owner? g with ⟨c | r, g₁⟩ <;> rw [hm] at h
  · have hg := trans_of Registry.Grows ((Registry.grows_make _ _ _ _ _).of_run hm) h
    exact (make_error_again hm hg).2 label' owner?
  · have hr := h.refs _ _ (Registry.get?_of_make hm)
    simp only [Registry.make, hr]

/-- The hint of a class that has been made is found again. -/
theorem classHint_again (name : String) (id : Label) {s t : Store}
    (h : ((Store.classHint name id : Attempt Store Cause ClassHint) s).2.Grows t) :
    Outcomes (Cause.Alike Eq false) Eq
      ((Store.classHint name id : Attempt Store Cause ClassHint) s).1
      ((Store.classHint name id : Attempt Store Cause ClassHint) t).1 := by
  have hshown (shown : String) (ht : t.shownNames.get? id = some shown) :
      ((Store.classHint name id : Attempt Store Cause ClassHint) t).1 = .ok ⟨id, shown⟩ := by
    simp only [Store.classHint, ht]
  cases hs : s.shownNames.get? id with
  | some shown =>
    have he : (Store.classHint name id : Attempt Store Cause ClassHint) s = (.ok ⟨id, shown⟩, s) := by
      simp only [Store.classHint, hs]
    rw [he] at h ⊢
    rw [hshown shown (h.shownNames _ _ hs)]
    exact .ok rfl
  | none =>
    have he : (Store.classHint name id : Attempt Store Cause ClassHint) s =
        (.ok ⟨id, name⟩, { s with shownNames := s.shownNames.insert id name }) := by
      simp only [Store.classHint, hs]
    rw [he] at h ⊢
    rw [hshown name (h.shownNames _ _ (Dict.get?_insert_self _ _ _))]
    exact .ok rfl

/-- An entry that looking a name up has found or made is found again. -/
theorem lookup_of_entry {name : String} (trust? : Option Trust) {h : Hint} {m : Naming}
    (hm : m.scope.entries.get? name = some h) : (lookup name trust? m).1 = .ok h := by
  simp only [lookup, hm]

/-- A name that has been looked up is looked up again as the same. -/
theorem lookup_again (name : String) {trust? : Option Trust} (ht : isTrusted trust? = true) :
    Agree (after last) (Cause.Alike Eq false) (Hint.Alike Eq false) (lookup name trust?)
      (lookup name trust?) := by
  refine agree_after (grows_lookup name ht) fun n m hm hn ↦ ?_
  have hnm := grows_of_after (grows_lookup name ht) hm hn
  rcases lookup_cases name ht n with ⟨h, hk, he⟩ | ⟨-, -, r, g, -, he⟩ |
    ⟨hnone, hvalid, c, g, hmake, he⟩ | ⟨hnone, hinvalid, c, hc, he⟩ <;> rw [he] at hn ⊢
  · rw [lookup_of_entry trust? (hnm.scope.entries _ _ hk)]
    exact .ok (.refl (fun _ ↦ rfl) h)
  · have hentry := (trans_of Grows hn hm).scope.entries name (.forwardRef r)
    rw [Scope.entries_record] at hentry
    rw [lookup_of_entry trust? (hentry (Dict.get?_insert_self _ _ _))]
    exact .ok (.forwardRef rfl)
  · obtain ⟨hmiss, hfail⟩ := make_error_again hmake hnm.refs
    have hmiss' : m.scope.entries.get? name = none := by
      by_contra hsome
      obtain ⟨k, hk⟩ := Option.ne_none_iff_exists'.mp hsome
      rcases hnm.added name k hk with hk | ⟨-, r, -, hr⟩
      · rw [hnone] at hk
        cases hk
      · rw [hmiss] at hr
        cases hr
    rcases lookup_cases name ht m with ⟨h, hk, -⟩ | ⟨-, -, r, g', hm', -⟩ |
      ⟨-, -, c', g', hm', he'⟩ | ⟨-, hinvalid, -⟩
    · rw [hmiss'] at hk
      cases hk
    · rw [hnm.scope.name, hnm.scope.owner, hfail] at hm'
      cases hm'
    · rw [hnm.scope.name, hnm.scope.owner, hfail] at hm'
      cases hm'
      rw [he']
      exact .error (.same c)
    · rw [hvalid] at hinvalid
      cases hinvalid
  · have hmiss : m.scope.entries.get? name = none := by
      by_contra hsome
      obtain ⟨k, hk⟩ := Option.ne_none_iff_exists'.mp hsome
      rcases hnm.added name k hk with hk | ⟨hvalid, -⟩
      · rw [hnone] at hk
        cases hk
      · rw [hinvalid] at hvalid
        cases hvalid
    rw [show (lookup name trust? m).1 = .error c by simp only [lookup, hmiss, hc]]
    exact .error (.same c)

/-- An action on the registry agrees with itself if, once it has been run, it ends alike under any
label and changes nothing. -/
theorem onRefs_again {a : Label → Attempt Registry Cause ForwardRef}
    (ha : ∀ l, Follows Registry.Grows (a l))
    (h : ∀ l l' g g', (a l g).2.Grows g' → a l' g' = ((a l g).1, g')) :
    Agree (after last) (Cause.Alike Eq false) Eq (onRefs a) (onRefs a) := by
  refine agree_after (grows_onRefs ha) fun n m hm hn ↦ ?_
  have he := h n.store.next m.store.next n.refs m.refs (trans_of Grows hn hm).refs
  change Outcomes _ _ (a n.store.next n.refs).1 (a m.store.next m.refs).1
  rw [he]
  cases (a n.store.next n.refs).1 with
  | error c => exact .error (.same c)
  | ok r => exact .ok rfl

/-- A twin that has been made is found again, and a failure is repeated. -/
theorem sealedTwin_again (label label' : Label) (r : ForwardRef) {g g' : Registry}
    (h : (Registry.sealedTwin label r g).2.Grows g') :
    Registry.sealedTwin label' r g' = ((Registry.sealedTwin label r g).1, g') := by
  unfold Registry.sealedTwin at h ⊢
  cases hk : r.kind with
  | «sealed» => rfl
  | subscriptable =>
    rw [hk] at h
    exact make_again label' h

/-- A second reading that starts above the end of the first one finds what that has left. -/
theorem comparable_after (w : World) (last : Naming) :
    Comparable w Eq false (after last) where
  backward _ _ h h' := trans_of Grows h h'
  fresh := agree_after (grows_onStore Store.grows_fresh) fun _ _ _ _ ↦ .ok trivial
  classHint id := agree_after (grows_onStore (Store.grows_classHint _ _)) fun n m hm hn ↦
    classHint_again (w.classes.name id) id (trans_of Grows hn hm).store
  lookup name _ ht := lookup_again name ht
  member := by
    rintro r _ name rfl
    exact onRefs_again (fun _ ↦ Registry.grows_make _ _ _ _ _) fun _ l' _ _ ↦ make_again l'
  sealedTwin := by
    rintro r _ rfl
    exact onRefs_again (fun _ ↦ Registry.grows_sealedTwin _ _) fun l l' _ _ ↦
      sealedTwin_again l l' r

end Naming

namespace Site

/-- A text that is read again gives a hint that is alike, with the very same references, or fails
alike. -/
theorem readText_again (w : World) (text : String) {n m : Naming}
    (h : (readText w text n).2.Grows m) :
    Outcomes (Cause.Alike Eq false) (Hint.Alike Eq false) (readText w text n).1
      (readText w text m).1 :=
  (readText_agree (Naming.comparable_after w (readText w text n).2) text n m h (refl_of _ _)).1

end Site

/-! ### Reading a text at a site -/

/-- The engine is the same. -/
def Run.SameEngine (r r' : Run) : Prop := r'.engine = r.engine

instance : IsPreorder Run Run.SameEngine where
  refl _ := rfl
  trans _ _ _ h h' := Eq.trans h' h

namespace Site

open Run

variable {w : World} {site : Site}

theorem sameEngine_classNames {ε : Type} : ∀ ids : List Label,
    Follows SameEngine (classNames w ids : Attempt Run ε (List (String × Hint)))
  | [] => .pure _
  | _ :: ids =>
    Follows.bind (fun _ ↦ rfl) fun _ ↦ (sameEngine_classNames ids).bind fun _ ↦ .pure _

/-- To make a scope does nothing to the engine. -/
theorem sameEngine_makeScope : Follows SameEngine (site.makeScope w) :=
  (sameEngine_classNames _).bind fun _ ↦ .ofExcept _

/-- Nor does asking for the scope of a site. -/
theorem sameEngine_forwardScope : Follows SameEngine (site.forwardScope w) := by
  intro r
  rcases forwardScope_cases w site r with ⟨s, -, he⟩ | ⟨-, s, r₁, hm, he⟩ | ⟨-, c, r₁, hm, he⟩ <;>
    rw [he]
  · exact refl_of SameEngine r
  · have h : r₁.engine = r.engine := sameEngine_makeScope.of_run hm
    exact h
  · exact sameEngine_makeScope.of_run hm

/-- Logging changes nothing but the log. -/
theorem log_inv {ε : Type} {message : String} {r r' : Run} {u : Unit}
    (h : (site.log message : Attempt Run ε Unit) r = (.ok u, r')) :
    r' = { r with log := r'.log } := by
  unfold Site.log at h
  split at h <;> cases h <;> rfl

theorem onNames_inv {α : Type} {scope : Scope} {a : Attempt Naming Cause α} {r r' : Run} {x : α}
    (h : onNames scope a r = (.ok x, r')) :
    ∃ n, a (r.names scope) = (.ok x, n) ∧ r' = { r with
      store := n.store
      engine := { r.engine with refs := n.refs }
      scope? := some n.scope } := by
  unfold onNames at h
  unfold Run.names
  rcases ha : a ⟨scope, r.engine.refs, r.store⟩ with ⟨y, n⟩
  rw [ha] at h
  cases h
  exact ⟨n, rfl, rfl⟩

/-- Reading a text at a site is reading it against the forward scope, which the run then holds as
the reading has left it. -/
theorem destringify_inv {text : String} {r r' : Run} {h : Hint}
    (hd : site.destringify w text r = (.ok h, r')) :
    ∃ scope r₁ n, site.forwardScope w r = (.ok scope, r₁) ∧
      readText w text (r₁.names scope) = (.ok h, n) ∧ r'.scope? = some n.scope ∧
      r'.names n.scope = n ∧ r'.engine = { r.engine with refs := n.refs } := by
  obtain ⟨scope, r₁, hscope, hd⟩ := bind_eq_ok_iff.mp hd
  obtain ⟨k, r₂, hread, hd⟩ := bind_eq_ok_iff.mp hd
  obtain ⟨_, r₃, hlog, hd⟩ := bind_eq_ok_iff.mp hd
  cases hd
  have hengine : r₁.engine = r.engine := sameEngine_forwardScope.of_run hscope
  obtain ⟨n, hn, rfl⟩ := onNames_inv hread
  refine ⟨scope, r₁, n, hscope, hn, ?_⟩
  rw [log_inv hlog, hengine]
  exact ⟨rfl, rfl, rfl⟩

end Site

end TypeHints
