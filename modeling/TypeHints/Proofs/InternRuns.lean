import TypeHints.Proofs.Growth
import TypeHints.Proofs.UniqueKeys

/-!
# Runs of an interner

Hints that are interned one after another keep what they were interned as: a representative stays
the one of its key (`Interner.intern_of_mem_internAll`). So two calls of a run come to one hint just
if their hints share a key, and where keys tell hints apart, just if the hints are alike up to the
order of the members of unions (`Interner.internAll_decides`).

Three conditions make keys tell hints apart:

* the hints are safe at their roots (`Hint.isSafeAtRoot`), so that their keys can be read back;
* the declared things in them have different labels (`Substitution.Apart`);
* the members of their unions are told apart by their keys in dictionary order (`Hint.Told`), so
  that unions of the same members share a key.

Hints of some kinds are not interned. They come to themselves, and nothing is compared
(`Interner.intern_of_not_isInternable`).

What a hint has come to is interned as itself ever after (`Interner.Sound.intern_intern`). This
rests on the invariant that every representative stands under its own key, and it makes interning
idempotent, also with other hints in between.
-/

namespace TypeHints.Interner

open Hint

/-- Intern hints one after another: the hints with what they are interned as, and the representatives
at the end. -/
def internAll : List Hint → Interner → List (Hint × Hint) × Interner
  | [], i => ([], i)
  | h :: hs, i => ((h, (i.intern h).1) :: (internAll hs (i.intern h).2).1, (internAll hs (i.intern h).2).2)

variable {hs : List Hint} {i : Interner} {h k : Hint}

/-- A run answers its hints in order. -/
theorem map_fst_internAll (hs : List Hint) (i : Interner) : (internAll hs i).1.map Prod.fst = hs := by
  induction hs generalizing i with
  | nil => rfl
  | cons h hs ih => exact congrArg (h :: ·) (ih (i.intern h).2)

/-- Representatives stay through a run. -/
theorem internAll_within (hs : List Hint) (i : Interner) :
    i.hints.Within (internAll hs i).2.hints := by
  induction hs generalizing i with
  | nil => exact Dict.within_refl _
  | cons h hs ih => exact (intern_within h i).trans (ih (i.intern h).2)

/-- Representatives stand under their own keys through a run. -/
theorem Sound.internAll (hi : i.Sound) (hs : List Hint) : (internAll hs i).2.Sound := by
  induction hs generalizing i with
  | nil => exact hi
  | cons h hs ih => exact ih (hi.intern h)

/-- A hint of a kind that is not interned comes to itself. -/
theorem intern_of_not_isInternable (hh : isInternable h = false) (i : Interner) :
    i.intern h = (h, i) := by
  rcases intern_cases h i with ⟨-, he⟩ | ⟨ht, -⟩ | ⟨ht, -⟩
  · exact he
  · rw [hh] at ht
    cases ht
  · rw [hh] at ht
    cases ht

/-- What a hint was interned as in a run, it is interned as ever after. -/
theorem intern_of_mem_internAll (he : (h, k) ∈ (internAll hs i).1) :
    (internAll hs i).2.intern h = (k, (internAll hs i).2) := by
  induction hs generalizing i with
  | nil => cases he
  | cons a hs ih =>
    rcases List.mem_cons.mp he with heq | he
    · obtain ⟨rfl, rfl⟩ := Prod.mk.inj heq
      cases hh : isInternable h with
      | false =>
        rw [intern_of_not_isInternable hh, intern_of_not_isInternable hh]
      | true =>
        have hlater := internAll_within hs (i.intern h).2 _ _ (intern_get? i hh)
        exact intern_of_get? hh hlater
    · exact ih he

/-- In a sound interner what a hint is interned as is interned as itself. -/
theorem Sound.intern_intern (hi : i.Sound) (heq : i.intern h = (k, i)) : i.intern k = (k, i) := by
  cases hh : isInternable h with
  | false =>
    rw [intern_of_not_isInternable hh] at heq
    obtain ⟨rfl, -⟩ := Prod.mk.inj heq
    exact intern_of_not_isInternable hh i
  | true =>
    have hget := intern_get? i hh
    rw [heq] at hget
    have hk : isInternable k = true := hi.internable _ _ hget
    exact intern_of_get? hk ((hi.key _ _ hget).symm ▸ hget)

/-- Where the keys of safe hints are told apart in dictionary order, the calls of a run come to one
hint just if their hints are alike up to the order of members, and interning once more changes
nothing. -/
theorem internAll_decides {hs : List Hint} (hsafe : ∀ h ∈ hs, h.isSafeAtRoot = true)
    (hapart : Substitution.Apart (hs.flatMap declared)) (htold : ∀ h ∈ hs, h.Told standardNumber) :
    (internAll hs empty).1.map Prod.fst = hs ∧
      (∀ e ∈ (internAll hs empty).1, ∀ f ∈ (internAll hs empty).1, isInternable e.1 = true →
        isInternable f.1 = true → (e.2 = f.2 ↔ Alike (· = ·) true e.1 f.1)) ∧
      ∀ e ∈ (internAll hs empty).1,
        (internAll hs empty).2.intern e.1 = (e.2, (internAll hs empty).2) ∧
        (internAll hs empty).2.intern e.2 = (e.2, (internAll hs empty).2) := by
  have hsound : (internAll hs empty).2.Sound := sound_empty.internAll hs
  have hcall : ∀ e ∈ (internAll hs empty).1, e.1 ∈ hs := by
    intro e he
    have hmem := List.mem_map_of_mem (f := Prod.fst) he
    rwa [map_fst_internAll] at hmem
  have hknown : ∀ h ∈ hs, h.declared ⊆ hs.flatMap declared :=
    fun h hh x hx ↦ List.mem_flatMap.mpr ⟨h, hh, hx⟩
  have hget : ∀ e ∈ (internAll hs empty).1, isInternable e.1 = true →
      (internAll hs empty).2.hints.get? e.1.stableKey = some e.2 := by
    intro e he hi
    have := intern_get? (internAll hs empty).2 hi
    rwa [intern_of_mem_internAll he] at this
  refine ⟨map_fst_internAll hs empty, fun e he f hf hei hfi ↦ ⟨fun heq ↦ ?_, fun halike ↦ ?_⟩,
    fun e he ↦ ?_⟩
  · -- one representative stands under one key
    have hkey : e.1.stableKey = f.1.stableKey := by
      rw [← hsound.key _ _ (hget e he hei), heq, hsound.key _ _ (hget f hf hfi)]
    exact alike_of_stableKey_eq hapart (hsafe _ (hcall e he)) (hsafe _ (hcall f hf))
      (hknown _ (hcall e he)) (hknown _ (hcall f hf)) hkey
  · have hkey : e.1.stableKey = f.1.stableKey :=
      halike.key_eq_of_told (fun _ _ ↦ congrArg ForwardRef.id) (htold _ (hcall e he))
    refine Option.some.inj ((hget e he hei).symm.trans ?_)
    rw [hkey]
    exact hget f hf hfi
  · have hagain := intern_of_mem_internAll he
    exact ⟨hagain, hsound.intern_intern hagain⟩

namespace Unions

/-- The template applied to a text in quotes and a number. -/
def boxed (l : Label) (text : String) : Hint :=
  .subscripted l (.template Reordered.box) [.deferred (l + 1) text, .literal (l + 2) (.number (.ofInt 3))]

/-- Two unions of the same members, one of other members, and a tuple around a union. -/
def calls : List Hint :=
  [.union 70 [.primitive .number, boxed 71 "a|b, c>"],
    .union 80 [boxed 81 "a|b, c>", .primitive .number],
    .union 90 [boxed 91 "a|b", .primitive .number],
    .tuple 100 [.union 101 [.any, .parameter ⟨61, "T", false⟩], .any]]

end Unions

/-- Interning unions of the same members in another order, and others. -/
theorem internAll_decides_unions :
    (∀ h ∈ Unions.calls, h.isSafeAtRoot = true) ∧
      Substitution.Apart (Unions.calls.flatMap declared) ∧
      (∀ h ∈ Unions.calls, h.Told standardNumber) ∧
      (internAll Unions.calls empty).1.map Prod.fst = Unions.calls ∧
      (∀ e ∈ (internAll Unions.calls empty).1, ∀ f ∈ (internAll Unions.calls empty).1,
        isInternable e.1 = true → isInternable f.1 = true →
          (e.2 = f.2 ↔ Alike (· = ·) true e.1 f.1)) ∧
      ∀ e ∈ (internAll Unions.calls empty).1,
        (internAll Unions.calls empty).2.intern e.1 = (e.2, (internAll Unions.calls empty).2) ∧
        (internAll Unions.calls empty).2.intern e.2 = (e.2, (internAll Unions.calls empty).2) := by
  have hsafe : ∀ h ∈ Unions.calls, h.isSafeAtRoot = true := by decide +kernel
  have hapart : Substitution.Apart (Unions.calls.flatMap declared) := by decide +kernel
  have hprintable : ∀ h ∈ Unions.calls, Text.Printable h.stableKey := by decide +kernel
  have htold : ∀ h ∈ Unions.calls, h.Told standardNumber :=
    fun h hh ↦ told_of_printable_key (hprintable h hh)
  exact ⟨hsafe, hapart, htold, internAll_decides hsafe hapart htold⟩

end TypeHints.Interner
