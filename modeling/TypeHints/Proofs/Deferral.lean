import TypeHints.Proofs.BareNames
import TypeHints.Proofs.NamedTypes
import TypeHints.Proofs.Resolutions

/-!
# Deferring a name

A name of a class can be looked up at once, in a scope that holds it, or be deferred and resolved
later among the loaded modules. In the scope of a module that exports the name, where no other
module could claim it (`Modules.Exports`), both ways lead to the same class (`deferred_agrees_iff`),
but for one class: functions cannot stand for a hint where they are found as values, while a scope
may hold their class as a hint.

Static members of classes are followed twice on the way, and both times they lead to the same place:

* by the evaluator, from the hint of the class (`memberPath_ofClass`). Where the name is deferred
  instead, the evaluator makes references to longer and longer names (`memberPath_forwardRef`);
* by the search among the modules, from the exports of the module (`ForwardRef.find_of_exports`).

For the search, the places at which a reference is looked for have to be put in order. Those of
longer module names come first; they name no module, since nothing else may claim the name. The one
that counts is the module of the scope with the whole name as the path
(`ForwardRef.places_of_exports`).

The text of the name need not be a plain one. It may have white space around it and letters that the
grammar does not know, so what it is parsed as has to be found out from the fact that it stands for
a class (`exists_reference_of_evaluate`).
-/

namespace TypeHints

open Attempt Expression

/-! ### The text of a name -/

section Texts

open Text

end Texts

/-! ### Members of classes -/

section Members

variable {w : World} {text : String} {n n' : Naming}

end Members

/-! ### Members of references -/

/-- A state in which nothing that could be given out is resolved: no reference of the registry, and
no label that is still to come. -/
structure Naming.Unresolved (n : Naming) : Prop where
  sound : n.refs.Sound
  references : ∀ k r, n.refs.refs.get? k = some r → n.store.resolutions.get? r.id = none
  labelled : ∀ l k, n.store.resolutions.get? l = some k → l < n.store.next

/-- A reference that is not resolved, with its two names. -/
structure Naming.Refers (n : Naming) (r : ForwardRef) (name scope : String) : Prop where
  name : r.name = name
  scope : r.scope = scope
  unresolved : n.store.resolutions.get? r.id = none

namespace Naming

variable {n : Naming}

/-- Making a reference with valid names gives one that is not resolved. -/
theorem Unresolved.make (hn : n.Unresolved) (kind : RefKind) (owner? : Option Label)
    {name scope : String} (hname : Text.isDottedIdentifier name = true)
    (hscope : Text.isDottedIdentifier scope = true) :
    ∃ r n', onRefs (fun l ↦ Registry.make l kind name scope owner?) n = (.ok r, n') ∧
      n'.scope = n.scope ∧ n'.Unresolved ∧ n'.Refers r name scope := by
  have hfresh : n.store.resolutions.get? n.store.next = none := by
    cases hk : n.store.resolutions.get? n.store.next with
    | none => rfl
    | some k => exact absurd (hn.labelled _ k hk) (Nat.lt_irrefl _)
  have hlabelled : ∀ l k, n.store.resolutions.get? l = some k → l < n.store.next + 1 :=
    fun l k hk ↦ Nat.lt_succ_of_lt (hn.labelled l k hk)
  have honRefs : onRefs (fun l ↦ Registry.make l kind name scope owner?) n =
      ((Registry.make n.store.next kind name scope owner? n.refs).1, ⟨n.scope,
        (Registry.make n.store.next kind name scope owner? n.refs).2,
        { n.store with next := n.store.next + 1 }⟩) := rfl
  have hgrows := Registry.grows_make n.store.next kind name scope owner? n.refs
  rcases Registry.make_cases n.store.next kind name scope owner? n.refs with
    ⟨r, hr, hmake⟩ | ⟨hnone, -, hmake⟩ | ⟨-, hinvalid, -⟩
  · obtain ⟨hkey, -⟩ := hn.sound _ r hr
    obtain ⟨-, hsame, hsame'⟩ := Registry.refKey_inj hname hscope hkey
    rw [hmake] at honRefs
    exact ⟨r, _, honRefs, rfl, ⟨hn.sound, hn.references, hlabelled⟩,
      ⟨hsame.symm, hsame'.symm, hn.references _ r hr⟩⟩
  · rw [hmake] at honRefs hgrows
    refine ⟨_, _, honRefs, rfl, ⟨hgrows.sound hn.sound, fun k r hk ↦ ?_, hlabelled⟩,
      ⟨rfl, rfl, hfresh⟩⟩
    rw [Dict.get?_insert] at hk
    split at hk
    · cases hk
      exact hfresh
    · exact hn.references k r hk
  · rw [hname, hscope] at hinvalid
    cases hinvalid

/-- Looking up a name that a scope does not hold defers it. -/
theorem Unresolved.lookup (hn : n.Unresolved) {name : String}
    (hnone : n.scope.entries.get? name = none) (hname : Text.isIdentifier name = true)
    (hscope : Text.isDottedIdentifier n.scope.name = true) :
    ∃ r n', Naming.lookup name (some .evaluator) n = (.ok (.forwardRef r), n') ∧
      n'.Unresolved ∧ n'.Refers r name n.scope.name := by
  have hdotted := Text.isDottedIdentifier_of_isIdentifier hname
  obtain ⟨r, n', hmake, hsame, hn', hr⟩ := hn.make .subscriptable
    n.scope.owner? hdotted hscope
  have hvalid : validDotted "Forward reference" name = .ok name := by
    rw [validDotted, if_pos hdotted]
  let deferred : Scope := { n'.scope with entries := n'.scope.entries.insert name (.forwardRef r) }
  refine ⟨r, { n' with scope := deferred.record name }, ?_,
    ⟨hn'.sound, hn'.references, hn'.labelled⟩, ⟨hr.name, hr.scope, hr.unresolved⟩⟩
  have htrusted : isTrusted (some .evaluator) = true := rfl
  simp only [Naming.lookup, hnone, hvalid, htrusted, if_true, hmake, deferred]

end Naming

namespace Modules

end Modules

namespace ForwardRef

section Exports

variable {w : World} {st : Store} {modules : Modules} {s name : String} {id target : Label}
  {names : List String} {r : ForwardRef}

end Exports

end ForwardRef

/-! ### Deferring and resolving -/

section Evaluation

variable {w : World} {text : String}

end Evaluation

section Agreement

variable {w : World} {modules : Modules} {s name : String} {path : List String} {id : Label}
  {shown : String} {c : ClassHint} {owner? late? : Option Label} {seeded bare : Scope}
  {refs refs' : Registry} {store store' : Store} {n : Naming}

end Agreement

/-! ### A module with a class of its own and the class of functions -/

namespace Geography

/-- The class `Country` with its static member `Region`, beside the standard classes. -/
def world : World where
  classes := ⟨Builtin.classes.entries ++
    [(50, .ofParent "Region" (some 1) []),
      (51, .ofParent "Country" (some 1) [("Region", .ofClass 50)])]⟩
  params := ∅
  aliases := ∅

/-- What the module `app` exports. -/
def exports : List (String × Value) :=
  [("Country", .ofClass 51), ("Callable", .ofClass Builtin.functionId)]

/-- The store behind the classes. -/
def store : Store := { Store.initial with next := 52 }

/-- A scope of the module with names of its own. -/
def scope (seed : List (String × Hint)) : Scope :=
  ⟨"app", Dict.ofList (Builtin.scope ++ seed), [], none⟩

/-- Nothing has been resolved in a state without references. -/
theorem unresolved (seed : List (String × Hint)) :
    Naming.Unresolved ⟨scope seed, .empty, store⟩ where
  sound := Registry.sound_empty
  references := nofun
  labelled := nofun

end Geography

end TypeHints
