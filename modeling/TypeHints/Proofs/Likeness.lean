import Mathlib.Data.List.Perm.Basic
import TypeHints.Cause
import TypeHints.Reduction

/-!
# Likeness of hints

Two hints are alike if they are built alike: the labels under which composite hints were built do
not matter, declared things have to be the same. `Hint.Alike` takes two parameters, so that one
definition serves several comparisons.

* The relation `ρ` says which forward references count as the same. It is equality where two hints
  are handled in one engine, and a weaker relation where two engines made the references apart.
* The flag `mixed` says whether the members of a union may stand in another order. Without it, hints
  that are alike are written alike (`Hint.Alike.repr_eq`) and share their key (`Hint.Alike.key_eq`).

Likeness is an equivalence if `ρ` is one, and it is proved by induction on how two hints are alike,
side by side with lists of hints. A union with its members in another order is alike in two steps:
its members are alike one by one to some list, and that list is a permutation of the other members.

Failures carry hints, which are shown in messages and listed as culprits. `Cause.Alike` says that
two failures are of one kind and speak of hints that are alike. Such failures have one code, and one
message too if members stand in order (`Cause.Alike.message_eq`).

Likeness is what the key of a hint is meant to decide. `Hint.Faithful` says that it does, for given
hints.
-/

namespace TypeHints

namespace Hint

variable {ρ : ForwardRef → ForwardRef → Prop} {mixed : Bool}

mutual

/-- Two hints are built alike. -/
inductive Alike (ρ : ForwardRef → ForwardRef → Prop) (mixed : Bool) : Hint → Hint → Prop
  | any : Alike ρ mixed .any .any
  | primitive {p q : Primitive} (name : p.name = q.name) :
      Alike ρ mixed (.primitive p) (.primitive q)
  | ofClass (c : ClassHint) : Alike ρ mixed (.ofClass c) (.ofClass c)
  | literal (l m : Label) (v : Literal) : Alike ρ mixed (.literal l v) (.literal m v)
  | union (l m : Label) {hs ks' ks : List Hint} (members : AlikeAll ρ mixed hs ks')
      (perm : ks'.Perm ks) (order : mixed = false → ks' = ks) :
      Alike ρ mixed (.union l hs) (.union m ks)
  | tuple (l m : Label) {hs ks : List Hint} (elements : AlikeAll ρ mixed hs ks) :
      Alike ρ mixed (.tuple l hs) (.tuple m ks)
  | parameter (p : TypeParameter) : Alike ρ mixed (.parameter p) (.parameter p)
  | template (t : Template) : Alike ρ mixed (.template t) (.template t)
  | alias (a : Alias) : Alike ρ mixed (.alias a) (.alias a)
  | appliedTemplate (l m : Label) (t : Template) {hs ks : List Hint}
      (args : AlikeAll ρ mixed hs ks) :
      Alike ρ mixed (.subscripted l (.template t) hs) (.subscripted m (.template t) ks)
  | appliedAlias (l m : Label) (a : Alias) {hs ks : List Hint} (args : AlikeAll ρ mixed hs ks) :
      Alike ρ mixed (.subscripted l (.alias a) hs) (.subscripted m (.alias a) ks)
  | appliedRef (l m : Label) {r s : ForwardRef} {hs ks : List Hint} (refs : ρ r s)
      (args : AlikeAll ρ mixed hs ks) :
      Alike ρ mixed (.subscripted l (.forwardRef r) hs) (.subscripted m (.forwardRef s) ks)
  | forwardRef {r s : ForwardRef} (refs : ρ r s) : Alike ρ mixed (.forwardRef r) (.forwardRef s)
  | deferred (l m : Label) (t : String) : Alike ρ mixed (.deferred l t) (.deferred m t)

/-- Two lists of hints are built alike, hint by hint. -/
inductive AlikeAll (ρ : ForwardRef → ForwardRef → Prop) (mixed : Bool) :
    List Hint → List Hint → Prop
  | nil : AlikeAll ρ mixed [] []
  | cons {h k : Hint} {hs ks : List Hint} (head : Alike ρ mixed h k)
      (tail : AlikeAll ρ mixed hs ks) : AlikeAll ρ mixed (h :: hs) (k :: ks)

end

/-- Lists of hints are alike if their members are, one by one. -/
theorem alikeAll_iff_forall₂ {hs ks : List Hint} :
    AlikeAll ρ mixed hs ks ↔ List.Forall₂ (Alike ρ mixed) hs ks := by
  constructor
  · intro h
    induction hs generalizing ks with
    | nil => cases h; exact .nil
    | cons _ _ ih => cases h with | cons hd tl => exact .cons hd (ih tl)
  · intro h
    induction h with
    | nil => exact .nil
    | cons hd _ ih => exact .cons hd ih

mutual

/-- A hint is like itself. -/
theorem Alike.refl (hρ : ∀ r, ρ r r) : ∀ h : Hint, Alike ρ mixed h h
  | .any => .any
  | .primitive _ => .primitive rfl
  | .ofClass c => .ofClass c
  | .literal l v => .literal l l v
  | .union l hs => .union l l (AlikeAll.refl hρ hs) (.refl hs) fun _ ↦ rfl
  | .tuple l hs => .tuple l l (AlikeAll.refl hρ hs)
  | .parameter p => .parameter p
  | .template t => .template t
  | .alias a => .alias a
  | .subscripted l (.template t) hs => .appliedTemplate l l t (AlikeAll.refl hρ hs)
  | .subscripted l (.alias a) hs => .appliedAlias l l a (AlikeAll.refl hρ hs)
  | .subscripted l (.forwardRef r) hs => .appliedRef l l (hρ r) (AlikeAll.refl hρ hs)
  | .forwardRef r => .forwardRef (hρ r)
  | .deferred l t => .deferred l l t

theorem AlikeAll.refl (hρ : ∀ r, ρ r r) : ∀ hs : List Hint, AlikeAll ρ mixed hs hs
  | [] => .nil
  | h :: hs => .cons (Alike.refl hρ h) (AlikeAll.refl hρ hs)

end

mutual

/-- Likeness goes both ways. -/
theorem Alike.symm (hρ : ∀ r s, ρ r s → ρ s r) :
    ∀ {h k : Hint}, Alike ρ mixed h k → Alike ρ mixed k h
  | _, _, .any => .any
  | _, _, .primitive hn => .primitive hn.symm
  | _, _, .ofClass c => .ofClass c
  | _, _, .literal l m v => .literal m l v
  | _, _, .union l m members perm order => by
    have back := AlikeAll.symm hρ members
    cases hm : mixed with
    | false =>
      obtain rfl := order hm
      exact .union m l (hm ▸ back) (.refl _) fun _ ↦ rfl
    | true =>
      obtain ⟨hs', hf, hp⟩ := List.perm_comp_forall₂ perm.symm (alikeAll_iff_forall₂.mp back)
      exact .union m l (hm ▸ alikeAll_iff_forall₂.mpr hf) hp nofun
  | _, _, .tuple l m elements => .tuple m l (AlikeAll.symm hρ elements)
  | _, _, .parameter p => .parameter p
  | _, _, .template t => .template t
  | _, _, .alias a => .alias a
  | _, _, .appliedTemplate l m t args => .appliedTemplate m l t (AlikeAll.symm hρ args)
  | _, _, .appliedAlias l m a args => .appliedAlias m l a (AlikeAll.symm hρ args)
  | _, _, .appliedRef l m hr args => .appliedRef m l (hρ _ _ hr) (AlikeAll.symm hρ args)
  | _, _, .forwardRef hr => .forwardRef (hρ _ _ hr)
  | _, _, .deferred l m t => .deferred m l t

theorem AlikeAll.symm (hρ : ∀ r s, ρ r s → ρ s r) :
    ∀ {hs ks : List Hint}, AlikeAll ρ mixed hs ks → AlikeAll ρ mixed ks hs
  | _, _, .nil => .nil
  | _, _, .cons head tail => .cons (Alike.symm hρ head) (AlikeAll.symm hρ tail)

end

mutual

/-- What is like a hint that is like a third one is like the third one. -/
theorem Alike.trans (hρ : ∀ r s t, ρ r s → ρ s t → ρ r t) :
    ∀ {h k m : Hint}, Alike ρ mixed h k → Alike ρ mixed k m → Alike ρ mixed h m
  | _, _, _, .any, h => h
  | _, _, _, .primitive hn, .primitive hn' => .primitive (hn.trans hn')
  | _, _, _, .ofClass _, h => h
  | _, _, _, .literal l _ v, .literal _ m _ => .literal l m v
  | _, _, _, .union l _ members perm order, .union _ m members' perm' order' => by
    obtain ⟨ms, hf, hp⟩ := List.perm_comp_forall₂ perm (alikeAll_iff_forall₂.mp members')
    cases hm : mixed with
    | false =>
      obtain rfl := order hm
      obtain rfl := order' hm
      exact .union l m (hm ▸ AlikeAll.trans hρ members members') (.refl _) fun _ ↦ rfl
    | true =>
      have := AlikeAll.trans hρ members (alikeAll_iff_forall₂.mpr hf)
      exact .union l m (hm ▸ this) (hp.trans perm') nofun
  | _, _, _, .tuple l _ es, .tuple _ m es' => .tuple l m (AlikeAll.trans hρ es es')
  | _, _, _, .parameter _, h => h
  | _, _, _, .template _, h => h
  | _, _, _, .alias _, h => h
  | _, _, _, .appliedTemplate l _ t args, .appliedTemplate _ m _ args' =>
    .appliedTemplate l m t (AlikeAll.trans hρ args args')
  | _, _, _, .appliedAlias l _ a args, .appliedAlias _ m _ args' =>
    .appliedAlias l m a (AlikeAll.trans hρ args args')
  | _, _, _, .appliedRef l _ hr args, .appliedRef _ m hr' args' =>
    .appliedRef l m (hρ _ _ _ hr hr') (AlikeAll.trans hρ args args')
  | _, _, _, .forwardRef hr, .forwardRef hr' => .forwardRef (hρ _ _ _ hr hr')
  | _, _, _, .deferred l _ t, .deferred _ m _ => .deferred l m t

theorem AlikeAll.trans (hρ : ∀ r s t, ρ r s → ρ s t → ρ r t) :
    ∀ {hs ks ms : List Hint}, AlikeAll ρ mixed hs ks → AlikeAll ρ mixed ks ms →
      AlikeAll ρ mixed hs ms
  | _, _, _, .nil, h => h
  | _, _, _, .cons head tail, .cons head' tail' =>
    .cons (Alike.trans hρ head head') (AlikeAll.trans hρ tail tail')

end

mutual

/-- Hints that are alike with the members of unions in order are alike under any wider relation of
references, in order or not. -/
theorem Alike.weaken {ρ' : ForwardRef → ForwardRef → Prop} (hρ : ∀ r s, ρ r s → ρ' r s)
    (mixed : Bool) : ∀ {h k : Hint}, Alike ρ false h k → Alike ρ' mixed h k
  | _, _, .any => .any
  | _, _, .primitive hn => .primitive hn
  | _, _, .ofClass c => .ofClass c
  | _, _, .literal l m v => .literal l m v
  | _, _, .union l m members perm order =>
    .union l m (members.weaken hρ mixed) perm fun _ ↦ order rfl
  | _, _, .tuple l m elements => .tuple l m (elements.weaken hρ mixed)
  | _, _, .parameter p => .parameter p
  | _, _, .template t => .template t
  | _, _, .alias a => .alias a
  | _, _, .appliedTemplate l m t args => .appliedTemplate l m t (args.weaken hρ mixed)
  | _, _, .appliedAlias l m a args => .appliedAlias l m a (args.weaken hρ mixed)
  | _, _, .appliedRef l m hr args => .appliedRef l m (hρ _ _ hr) (args.weaken hρ mixed)
  | _, _, .forwardRef hr => .forwardRef (hρ _ _ hr)
  | _, _, .deferred l m t => .deferred l m t

theorem AlikeAll.weaken {ρ' : ForwardRef → ForwardRef → Prop} (hρ : ∀ r s, ρ r s → ρ' r s)
    (mixed : Bool) : ∀ {hs ks : List Hint}, AlikeAll ρ false hs ks → AlikeAll ρ' mixed hs ks
  | _, _, .nil => .nil
  | _, _, .cons head tail => .cons (head.weaken hρ mixed) (tail.weaken hρ mixed)

end

/-! ### Texts of alike hints -/

mutual

/-- Hints that are alike with the members of unions in order are written alike. -/
theorem Alike.repr_eq (hρ : ∀ r s, ρ r s → r.name = s.name) :
    ∀ {h k : Hint}, Alike ρ false h k → h.repr = k.repr
  | _, _, .any => rfl
  | _, _, .primitive hn => hn
  | _, _, .ofClass _ => rfl
  | _, _, .literal _ _ _ => rfl
  | _, _, .union _ _ members _ order => by
    obtain rfl := order rfl
    simp only [repr, AlikeAll.reprs_eq hρ members]
  | _, _, .tuple _ _ es => by simp only [repr, AlikeAll.reprs_eq hρ es]
  | _, _, .parameter _ => rfl
  | _, _, .template _ => rfl
  | _, _, .alias _ => rfl
  | _, _, .appliedTemplate _ _ _ args => by simp only [repr, AlikeAll.reprs_eq hρ args]
  | _, _, .appliedAlias _ _ _ args => by simp only [repr, AlikeAll.reprs_eq hρ args]
  | _, _, .appliedRef _ _ hr args => by
    simp only [repr, Origin.name, hρ _ _ hr, AlikeAll.reprs_eq hρ args]
  | _, _, .forwardRef hr => hρ _ _ hr
  | _, _, .deferred _ _ _ => rfl

theorem AlikeAll.reprs_eq (hρ : ∀ r s, ρ r s → r.name = s.name) :
    ∀ {hs ks : List Hint}, AlikeAll ρ false hs ks → reprs hs = reprs ks
  | _, _, .nil => rfl
  | _, _, .cons head tail => by
    simp only [reprs, Alike.repr_eq hρ head, AlikeAll.reprs_eq hρ tail]

end

mutual

/-- Hints that are alike with the same references and the members of unions in order share their
key. -/
theorem Alike.key_eq (number : Label → Nat) (hρ : ∀ r s, ρ r s → r.id = s.id) :
    ∀ {h k : Hint}, Alike ρ false h k → h.key number = k.key number
  | _, _, .any => rfl
  | _, _, .primitive hn => by simp only [key, hn]
  | _, _, .ofClass _ => rfl
  | _, _, .literal _ _ _ => rfl
  | _, _, .union _ _ members _ order => by
    obtain rfl := order rfl
    simp only [key, AlikeAll.keys_eq number hρ members]
  | _, _, .tuple _ _ es => by simp only [key, AlikeAll.keys_eq number hρ es]
  | _, _, .parameter _ => rfl
  | _, _, .template _ => rfl
  | _, _, .alias _ => rfl
  | _, _, .appliedTemplate _ _ _ args => by simp only [key, AlikeAll.keys_eq number hρ args]
  | _, _, .appliedAlias _ _ _ args => by simp only [key, AlikeAll.keys_eq number hρ args]
  | _, _, .appliedRef _ _ hr args => by
    simp only [key, originKey, hρ _ _ hr, AlikeAll.keys_eq number hρ args]
  | _, _, .forwardRef hr => by simp only [key, originKey, hρ _ _ hr]
  | _, _, .deferred _ _ _ => rfl

theorem AlikeAll.keys_eq (number : Label → Nat) (hρ : ∀ r s, ρ r s → r.id = s.id) :
    ∀ {hs ks : List Hint}, AlikeAll ρ false hs ks → keys number hs = keys number ks
  | _, _, .nil => rfl
  | _, _, .cons head tail => by
    simp only [keys, Alike.key_eq number hρ head, AlikeAll.keys_eq number hρ tail]

end

end Hint

/-! ### Likeness of failures -/

namespace Cause

open Hint

/-- Two failures say the same of hints that are alike. -/
inductive Alike (ρ : ForwardRef → ForwardRef → Prop) (mixed : Bool) : Cause → Cause → Prop
  | noArguments {h k : Hint} (hint : Hint.Alike ρ mixed h k) :
      Alike ρ mixed (.noArguments h) (.noArguments k)
  | tooManyArguments {h k : Hint} (hint : Hint.Alike ρ mixed h k) (given declared : Nat) :
      Alike ρ mixed (.tooManyArguments h given declared) (.tooManyArguments k given declared)
  | boundViolated {h k a b c d : Hint} (hint : Hint.Alike ρ mixed h k) (p : TypeParameter)
      (arg : Hint.Alike ρ mixed a b) (bound : Hint.Alike ρ mixed c d) :
      Alike ρ mixed (.boundViolated h p a c) (.boundViolated k p b d)
  | noClassMember {h k : Hint} (text : String) (owner : Hint.Alike ρ mixed h k) (name : String) :
      Alike ρ mixed (.noClassMember text h name) (.noClassMember text k name)
  | notSubscriptable {h k : Hint} (text : String) (hint : Hint.Alike ρ mixed h k) :
      Alike ρ mixed (.notSubscriptable text h) (.notSubscriptable text k)
  | notPromise {h k : Hint} (callable : String) (hint : Hint.Alike ρ mixed h k) :
      Alike ρ mixed (.notPromise callable h) (.notPromise callable k)
  | notGenerator {h k : Hint} (callable : String) (hint : Hint.Alike ρ mixed h k)
      (templates : List Template) :
      Alike ρ mixed (.notGenerator callable h templates) (.notGenerator callable k templates)
  /-- The same failure. -/
  | same (c : Cause) : Alike ρ mixed c c

variable {ρ : ForwardRef → ForwardRef → Prop} {mixed : Bool} {c d : Cause}

/-- Failures that are alike have one code. -/
theorem Alike.code_eq (h : Alike ρ mixed c d) : c.diagnostic.code = d.diagnostic.code := by
  cases h <;> simp only [diagnostic, Diagnostic.siteError]

/-- With the members of unions in order, alike failures are worded alike. -/
theorem Alike.message_eq (hρ : ∀ r s, ρ r s → r.name = s.name) (h : Alike ρ false c d) :
    c.diagnostic.message = d.diagnostic.message := by
  cases h with
  | same _ => rfl
  | boundViolated hint p arg bound =>
    simp only [diagnostic, Diagnostic.siteError, hint.repr_eq hρ, arg.repr_eq hρ, bound.repr_eq hρ]
  | noArguments hint | tooManyArguments hint _ _ | noClassMember _ hint _
  | notSubscriptable _ hint | notPromise _ hint | notGenerator _ hint _ =>
    simp only [diagnostic, Diagnostic.siteError, hint.repr_eq hρ]

end Cause

end TypeHints
