import TypeHints.Proofs.Memo
import TypeHints.Proofs.Sharing

/-!
# Kept outcomes cannot be told from computed ones

`Substitution.build` answers an application from the outcomes that are kept, and keeps the outcome
of an application that is new. A run of applications that starts with none kept is a memo table
whose keys are texts of labels. That what is kept does not show takes three steps:

* such a text gives back the labels that it is made of (`Substitution.labels_of_cacheKey_eq`):
  labels are written in decimal, and the separators between them are no digits;
* labels that no two things share give back the things (`Substitution.Apart.map_label_inj`), so that
  applications with one key are the same hint, with the same parameters, applied to the same
  arguments (`Substitution.Apart.key_inj`);
* so a hit answers the application that was asked for, and the table can be followed along the run
  (`Substitution.kept_answers`) by the rules for memo tables.

Each application of a run has the outcome that it has by itself, and two have one outcome just if
they are the same hint applied to the same arguments (`Substitution.build_transparent`). Outcomes
carry a label of their own, which tells an outcome that was kept from one that was computed again
with the same bindings. Failures are kept like tables, and so is the answer that there is nothing to
bind.
-/

namespace TypeHints.Substitution

/-- A hint whose origin declares parameters, and what it is applied to. -/
@[ext]
structure Application where
  hint : Hint
  params : List TypeParameter
  args : List Hint
deriving DecidableEq

namespace Application

/-- The key that the outcome of an application is kept under. -/
def key (a : Application) : String := cacheKey a.hint a.params a.args

/-- All that an application consists of. -/
def objects (a : Application) : List Hint := a.hint :: (a.params.map .parameter ++ a.args)

end Application

/-- The outcomes of applications, one after the other. Each is offered a label of its own, which it
takes if its outcome is not kept. -/
def answers (w : World) : Label → Cache → List Application → List (Application × Outcome)
  | _, _, [] => []
  | label, cache, a :: as =>
    let (outcome, cache') := build w label a.hint a.params a.args cache
    (a, outcome) :: answers w (label + 1) cache' as

/-- No two of the things that are met share a label. -/
def Apart (hs : List Hint) : Prop := ∀ h ∈ hs, ∀ k ∈ hs, h.label = k.label → h = k

instance (hs : List Hint) : Decidable (Apart hs) := inferInstanceAs (Decidable (∀ h ∈ hs, _))

/-- Lists of things with different labels are given by their labels. -/
theorem Apart.map_label_inj {hs : List Hint} (hapart : Apart hs) : ∀ {as bs : List Hint},
    (∀ a ∈ as, a ∈ hs) → (∀ b ∈ bs, b ∈ hs) → as.map Hint.label = bs.map Hint.label → as = bs
  | [], [], _, _, _ => rfl
  | a :: as, b :: bs, has, hbs, h => by
    obtain ⟨hlabel, hrest⟩ := List.cons.inj h
    obtain ⟨ha, has⟩ := List.forall_mem_cons.mp has
    obtain ⟨hb, hbs⟩ := List.forall_mem_cons.mp hbs
    rw [hapart a ha b hb hlabel, hapart.map_label_inj has hbs hrest]

/-- Applications of things with different labels are given by their keys. -/
theorem Apart.key_inj {hs : List Hint} (hapart : Apart hs) {a b : Application}
    (ha : ∀ h ∈ a.objects, h ∈ hs) (hb : ∀ h ∈ b.objects, h ∈ hs) (h : a.key = b.key) : a = b := by
  obtain ⟨hhint, hparams, hargs⟩ := labels_of_cacheKey_eq h
  obtain ⟨ha₁, ha₂⟩ := List.forall_mem_cons.mp ha
  obtain ⟨hb₁, hb₂⟩ := List.forall_mem_cons.mp hb
  rw [List.forall_mem_append] at ha₂ hb₂
  have hhint : a.hint = b.hint := hapart _ ha₁ _ hb₁ hhint
  have hid (ps : List TypeParameter) : (ps.map Hint.parameter).map Hint.label = ps.map (·.id) :=
    List.map_map
  have hparams : a.params.map Hint.parameter = b.params.map Hint.parameter :=
    hapart.map_label_inj ha₂.1 hb₂.1 (by rw [hid, hid, hparams])
  have hparams : a.params = b.params :=
    List.map_injective_iff.mpr (fun _ _ heq ↦ Hint.parameter.inj heq) hparams
  have hargs : a.args = b.args := hapart.map_label_inj ha₂.2 hb₂.2 hargs
  exact Application.ext hhint hparams hargs

/-- An outcome is the computed one of an application, under its own label. -/
def IsOutcome (w : World) (a : Application) (o : Outcome) : Prop :=
  o = outcome w o.label a.hint a.params a.args

/-- The outcomes of a run of applications, and the memo table that they were kept in. -/
abbrev Kept (w : World) : Label → List (Application × Outcome) → Cache → Prop :=
  Memo Application.key Outcome.label (IsOutcome w)

/-- A run goes on where outcomes are kept, and ends with its own outcomes kept as well. -/
theorem kept_answers {w : World} {hs : List Hint} (hapart : Apart hs) :
    ∀ {calls : List Application} {label : Label} {es : List (Application × Outcome)}
      {cache : Cache}, Kept w label es cache →
      (∀ a ∈ es.map Prod.fst ++ calls, ∀ h ∈ a.objects, h ∈ hs) →
      (answers w label cache calls).map Prod.fst = calls ∧
        ∃ label' cache', Kept w label' (es ++ answers w label cache calls) cache' := by
  intro calls
  induction calls with
  | nil =>
    intro label es cache hkept _
    exact ⟨rfl, label, cache, by simpa only [answers, List.append_nil] using hkept⟩
  | cons a calls ih =>
    intro label es cache hkept hobjects
    rcases hbuild : build w label a.hint a.params a.args cache with ⟨o, cache'⟩
    have hstep : Kept w (label + 1) (es ++ [(a, o)]) cache' := by
      -- labels tell apart what the earlier applications and this one consist of
      have hkey : ∀ e ∈ es, e.1.key = a.key → e.1 = a := fun e he ↦
        hapart.key_inj (hobjects _ (List.mem_append_left _ (List.mem_map_of_mem he)))
          (hobjects _ (by simp))
      rcases build_cases w label a.hint a.params a.args cache with ⟨o', hget, he⟩ | ⟨hget, he⟩ <;>
        obtain ⟨rfl, rfl⟩ := Prod.mk.inj (hbuild.symm.trans he)
      · exact (hkept.hit hget hkey).mono (Nat.le_succ label)
      · exact hkept.miss hget rfl rfl
    have hrest := ih hstep (by simpa using hobjects)
    simp only [List.append_assoc, List.singleton_append] at hrest
    simp only [answers, hbuild, List.map_cons, hrest.1, true_and]
    exact hrest.2

/-- What is kept does not show. On a run that starts with nothing kept, and among things no two of
which share a label, every application has the result that it has when nothing is kept: the same
bindings in the same order, nothing to bind, or the same failure. Two applications have one outcome
just if they are the same hint with the same parameters and arguments. -/
theorem build_transparent (w : World) (label : Label) (calls : List Application)
    (hapart : Apart (calls.flatMap Application.objects)) :
    (answers w label ∅ calls).map Prod.fst = calls ∧
      (∀ e ∈ answers w label ∅ calls, ∀ label' : Label,
        e.2.result.map (·.map Table.entries) =
          (build w label' e.1.hint e.1.params e.1.args ∅).1.result.map (·.map Table.entries)) ∧
      ∀ e ∈ answers w label ∅ calls, ∀ f ∈ answers w label ∅ calls,
        (e.2.label = f.2.label ↔ e.1 = f.1) ∧ (e.1 = f.1 → e.2 = f.2) := by
  have hobjects : ∀ a ∈ ([] : List (Application × Outcome)).map Prod.fst ++ calls,
      ∀ h ∈ a.objects, h ∈ calls.flatMap Application.objects :=
    fun a ha h hh ↦ List.mem_flatMap.mpr ⟨a, ha, hh⟩
  have hnone : Kept w label [] ∅ := .empty
  obtain ⟨hcalls, label₁, cache₁, hkept⟩ := kept_answers hapart hnone hobjects
  rw [List.nil_append] at hkept
  refine ⟨hcalls, fun e he label' ↦ ?_, fun e he f hf ↦
    ⟨hkept.label_eq_iff he hf, hkept.value_eq he hf⟩⟩
  have hmade : e.2 = outcome w e.2.label e.1.hint e.1.params e.1.args := hkept.made e he
  have hfresh : (build w label' e.1.hint e.1.params e.1.args ∅).1 =
      outcome w label' e.1.hint e.1.params e.1.args := rfl
  rw [hmade, hfresh, outcome_entries, outcome_entries]

namespace Boxed

/-- The parameter of `Box`. -/
def item : TypeParameter := ⟨50, "T", false⟩

/-- The hint `Box<number>`. -/
def hint : Hint := .subscripted 52 (.template ⟨51, "Box", [item], none⟩) [.primitive .number]

/-- `Box` applied to a number, to nothing, to its own parameter, and to a number again. -/
def calls : List Application :=
  [⟨hint, [item], [.primitive .number]⟩, ⟨hint, [item], []⟩, ⟨hint, [item], [.parameter item]⟩,
    ⟨hint, [item], [.primitive .number]⟩]

end Boxed

/-- Tables, failures and applications that bind nothing are kept alike, and only the repeated
application has an outcome that was kept. -/
theorem build_transparent_of_repeated :
    Apart (Boxed.calls.flatMap Application.objects) ∧
      (answers World.builtin 60 ∅ Boxed.calls).map (·.2.label) = [60, 61, 62, 60] ∧
      ∀ e ∈ answers World.builtin 60 ∅ Boxed.calls, ∀ label' : Label,
        e.2.result.map (·.map Table.entries) = (build World.builtin label' e.1.hint e.1.params
          e.1.args ∅).1.result.map (·.map Table.entries) := by
  have hapart : Apart (Boxed.calls.flatMap Application.objects) := by decide
  exact ⟨hapart, by decide +kernel, (build_transparent World.builtin 60 Boxed.calls hapart).2.1⟩

end TypeHints.Substitution
