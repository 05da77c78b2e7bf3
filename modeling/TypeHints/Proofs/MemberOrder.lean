import TypeHints.Proofs.DictionaryOrder
import TypeHints.Proofs.Likeness

/-!
# Keys and the order of members

The key of a union lists the keys of its members in dictionary order, so that unions of the same
members share a key whichever way they were written. Keys of members that tie without being equal
would stand in the order in which they were written, though, and hints that are alike up to the
order of members share a key only where nothing of this kind occurs. There are two conditions for
that:

* `Hint.Told`: of the members of any union in the hint, at any depth, only those with one key tie.
  This is what the proof needs, and what it goes down into the hint with;
* a printable key (`Hint.told_of_printable_key`). This can be seen from the key alone.

Whether a key is printable does not depend on how declared things are numbered
(`Hint.printable_key_iff`): the numbers are written in digits, and everything else is the same under
all numberings. So it does not matter in which order a process came across the declared things.

`Hint.key_eq_of_reordered` is the result for printable keys: hints that are alike up to the order of
members share their key under every numbering, and so they count as similar.
-/

namespace TypeHints

open Text

/-! ### Printable texts put together -/

namespace Text

instance (s : String) : Decidable (Printable s) :=
  decidable_of_iff (s.toList.all Expression.isPrintable = true) List.all_eq_true

/-- Texts that are put together are printable if both are. -/
@[simp] theorem printable_append {s t : String} :
    Printable (s ++ t) ↔ Printable s ∧ Printable t := by
  simp only [Printable, String.toList_append, List.forall_mem_append]

/-- Joined texts are printable if each of them is. -/
theorem printable_joinWith {sep : String} (hsep : Printable sep) : ∀ {ss : List String},
    Printable (joinWith sep ss) ↔ ∀ s ∈ ss, Printable s
  | [] => iff_of_true (fun _ hc ↦ (by cases hc)) fun _ hs ↦ (by cases hs)
  | [s] => by simp
  | s :: t :: rest => by
    rw [joinWith_cons_cons, printable_append, printable_append, and_iff_left hsep,
      printable_joinWith hsep, List.forall_mem_cons (a := s)]

/-- Decimal numerals are printable. -/
theorem printable_decimal (n : Nat) : Printable (decimal n) := by
  intro c hc
  rw [decimal, String.toList_ofList] at hc
  have hdigit := isDigit_of_mem_decimalChars hc
  simp only [isDigit, Bool.and_eq_true, decide_eq_true_eq] at hdigit
  have hlow : 48 ≤ c.toNat := hdigit.1
  have hhigh : c.toNat ≤ 57 := hdigit.2
  have hle : 32 ≤ c.toNat ∧ c.toNat ≤ 126 := by omega
  exact Bool.and_eq_true_iff.mpr ⟨decide_eq_true hle.1, decide_eq_true hle.2⟩

end Text

namespace Hint

variable {number : Label → Nat}

/-! ### Hints with printable keys -/

mutual

/-- What a hint is keyed by is printable, apart from the numbers of declared things. -/
def Legible : Hint → Prop
  | .primitive p => Printable p.name
  | .literal _ v => Printable v.key
  | .union _ hs => LegibleAll hs
  | .tuple _ hs => LegibleAll hs
  | .subscripted _ _ hs => LegibleAll hs
  | .deferred _ t => Printable (quote t)
  | _ => True

/-- What hints are keyed by is printable. -/
def LegibleAll : List Hint → Prop
  | [] => True
  | h :: hs => Legible h ∧ LegibleAll hs

end

/-- The key of a declared thing is printable, whatever its number. -/
theorem printable_nominalKey {kind : String} (hkind : Printable kind) (number : Label → Nat)
    (id : Label) : Printable (nominalKey kind number id) := by
  rw [nominalKey, printable_append, printable_append]
  exact ⟨⟨hkind, by decide⟩, printable_decimal _⟩

/-- The key of an origin is printable. -/
theorem printable_originKey (number : Label → Nat) (o : Origin) :
    Printable (originKey number o) := by
  cases o <;> exact printable_nominalKey (by decide) _ _

mutual

/-- A key is printable under one numbering just if it is under any. -/
theorem printable_key_iff : ∀ h : Hint, Printable (h.key number) ↔ h.Legible
  | .any => iff_of_true (by rw [key]; decide) trivial
  | .primitive p => by
    rw [key, printable_append, Legible]
    exact and_iff_right (by decide)
  | .ofClass _ | .parameter _ => by
    rw [key]
    exact iff_of_true (printable_nominalKey (by decide) _ _) trivial
  | .template _ | .alias _ | .forwardRef _ => by
    rw [key]
    exact iff_of_true (printable_originKey _ _) trivial
  | .literal _ v => by
    rw [key, printable_append, Legible]
    exact and_iff_right (by decide)
  | .union _ hs => by
    rw [key, printable_append, printable_joinWith (by decide), Legible, ← printable_keys_iff hs]
    simp only [(sortTexts_perm (keys number hs)).mem_iff]
    exact and_iff_right (by decide)
  | .tuple _ hs => by
    rw [key, printable_append, printable_joinWith (by decide), Legible, ← printable_keys_iff hs]
    exact and_iff_right (by decide)
  | .subscripted _ o hs => by
    have hsub : Printable "sub:" := by decide
    have hopen : Printable "<" := by decide
    have hclose : Printable ">" := by decide
    simp only [key, printable_append, printable_joinWith (show Printable "," by decide), Legible,
      printable_keys_iff hs, printable_originKey, hsub, hopen, hclose, true_and, and_true]
  | .deferred _ t => by
    rw [key, printable_append, Legible]
    exact and_iff_right (by decide)

theorem printable_keys_iff : ∀ hs : List Hint,
    (∀ s ∈ keys number hs, Printable s) ↔ LegibleAll hs
  | [] => iff_of_true (fun _ hs ↦ (by cases hs)) trivial
  | h :: hs => by
    rw [keys, List.forall_mem_cons, LegibleAll, printable_key_iff h, printable_keys_iff hs]

end

/-! ### Hints whose members are told apart -/

mutual

/-- Of the members of any union in a hint, only those with one key tie in dictionary order. -/
def Told (number : Label → Nat) : Hint → Prop
  | .union _ hs => Text.Told (keys number hs) ∧ ToldAll number hs
  | .tuple _ hs => ToldAll number hs
  | .subscripted _ _ hs => ToldAll number hs
  | _ => True

/-- Of the members of any union in some hints, only those with one key tie. -/
def ToldAll (number : Label → Nat) : List Hint → Prop
  | [] => True
  | h :: hs => Told number h ∧ ToldAll number hs

end

mutual

/-- Where keys are printable, only equal ones tie. -/
theorem told_of_legible : ∀ h : Hint, h.Legible → h.Told number
  | .union _ hs, hh => by
    refine ⟨told_of_printable ?_, toldAll_of_legibleAll hs hh⟩
    exact (printable_keys_iff hs).mpr hh
  | .tuple _ hs, hh => toldAll_of_legibleAll hs hh
  | .subscripted _ _ hs, hh => toldAll_of_legibleAll hs hh
  | .any, _ | .primitive _, _ | .ofClass _, _ | .literal _ _, _ | .parameter _, _ | .template _, _
  | .alias _, _ | .forwardRef _, _ | .deferred _ _, _ => trivial

theorem toldAll_of_legibleAll : ∀ hs : List Hint, LegibleAll hs → ToldAll number hs
  | [], _ => trivial
  | h :: hs, hh => ⟨told_of_legible h hh.1, toldAll_of_legibleAll hs hh.2⟩

end

/-- In a hint with a printable key the members of unions are told apart. -/
theorem told_of_printable_key {h : Hint} (hh : Printable (h.key number)) : h.Told number :=
  told_of_legible h ((printable_key_iff h).mp hh)

/-! ### Keys up to the order of members -/

section Keys

variable {ρ : ForwardRef → ForwardRef → Prop}

mutual

/-- Where members are told apart, hints that are alike up to the order of members share a key. -/
theorem Alike.key_eq_of_told (hρ : ∀ r s, ρ r s → r.id = s.id) :
    ∀ {h k : Hint}, Alike ρ true h k → h.Told number → h.key number = k.key number
  | _, _, .any, _ => rfl
  | _, _, .primitive hn, _ => by simp only [key, hn]
  | _, _, .ofClass _, _ => rfl
  | _, _, .literal _ _ _, _ => rfl
  | .union _ hs, .union _ ks, .union _ _ members perm _, htold => by
    have hkeys := AlikeAll.keys_eq_of_told hρ members htold.2
    -- the members have the same keys up to order, which sorting forgets
    have hperm : (keys number hs).Perm (keys number ks) := by
      rw [hkeys, keys_eq_map, keys_eq_map]
      exact perm.map _
    rw [key, key, sortTexts_congr htold.1 hperm]
  | _, _, .tuple _ _ es, htold => by
    rw [key, key, AlikeAll.keys_eq_of_told hρ es htold]
  | _, _, .parameter _, _ => rfl
  | _, _, .template _, _ => rfl
  | _, _, .alias _, _ => rfl
  | _, _, .appliedTemplate _ _ _ args, htold => by
    rw [key, key, AlikeAll.keys_eq_of_told hρ args htold]
  | _, _, .appliedAlias _ _ _ args, htold => by
    rw [key, key, AlikeAll.keys_eq_of_told hρ args htold]
  | _, _, .appliedRef _ _ hr args, htold => by
    rw [key, key, originKey, originKey, hρ _ _ hr, AlikeAll.keys_eq_of_told hρ args htold]
  | _, _, .forwardRef hr, _ => by rw [key, key, originKey, originKey, hρ _ _ hr]
  | _, _, .deferred _ _ _, _ => rfl

theorem AlikeAll.keys_eq_of_told (hρ : ∀ r s, ρ r s → r.id = s.id) :
    ∀ {hs ks : List Hint}, AlikeAll ρ true hs ks → ToldAll number hs →
      keys number hs = keys number ks
  | _, _, .nil, _ => rfl
  | _, _, .cons head tail, htold => by
    rw [keys, keys, Alike.key_eq_of_told hρ head htold.1, AlikeAll.keys_eq_of_told hρ tail htold.2]

end

end Keys

/-- Hints with printable keys that are alike up to the order of the members of unions, at any depth,
share their key under every numbering of declared things, and count as similar. -/
theorem key_eq_of_reordered (number : Label → Nat) {h k : Hint} (hh : Printable (h.key number))
    (halike : Alike (· = ·) true h k) : h.key number = k.key number ∧ similar h k = true := by
  have hid : ∀ r s : ForwardRef, r = s → r.id = s.id := fun _ _ ↦ congrArg ForwardRef.id
  have hlegible : h.Legible := (printable_key_iff h).mp hh
  refine ⟨halike.key_eq_of_told hid (told_of_legible h hlegible), ?_⟩
  have hstable : h.stableKey = k.stableKey :=
    halike.key_eq_of_told hid (told_of_legible h hlegible)
  rw [similar, decide_eq_true hstable, Bool.or_true]

namespace Reordered

/-- A template with one parameter. -/
def box : Template := ⟨60, "Box", [⟨61, "T", false⟩], none⟩

/-- A tuple around a union, an argument of which is a union again. -/
def hint : Hint :=
  .tuple 70 [.union 71 [.primitive .number, .subscripted 72 (.template box)
    [.union 73 [.literal 74 (.string "b"), .literal 75 (.string "B")]]]]

/-- The same hint, built anew with the members of both unions in the other order. -/
def turned : Hint :=
  .tuple 80 [.union 81 [.subscripted 82 (.template box)
    [.union 83 [.literal 84 (.string "B"), .literal 85 (.string "b")]], .primitive .number]]

theorem hint_alike_turned : Alike (· = ·) true hint turned := by
  have hinner : Alike (· = ·) true
      (.union 73 [.literal 74 (.string "b"), .literal 75 (.string "B")])
      (.union 83 [.literal 84 (.string "B"), .literal 85 (.string "b")]) :=
    .union 73 83 (.cons (.literal 74 85 _) (.cons (.literal 75 84 _) .nil)) (.swap _ _ _)
      fun hmixed ↦ (by cases hmixed)
  have hbox := Alike.appliedTemplate 72 82 box (.cons hinner .nil)
  have houter := Alike.union 71 81 (.cons (.primitive (q := .number) rfl) (.cons hbox .nil))
    (.swap _ _ _) fun hmixed ↦ (by cases hmixed)
  exact .tuple 70 80 (.cons houter .nil)

end Reordered

/-- Members in another order at two depths. -/
theorem key_eq_of_reordered_nested :
    Printable (Reordered.hint.key standardNumber) ∧
      Alike (· = ·) true Reordered.hint Reordered.turned ∧
      Reordered.hint.key standardNumber = Reordered.turned.key standardNumber ∧
      similar Reordered.hint Reordered.turned = true := by
  have hprintable : Printable (Reordered.hint.key standardNumber) := by decide +kernel
  exact ⟨hprintable, Reordered.hint_alike_turned,
    key_eq_of_reordered standardNumber hprintable Reordered.hint_alike_turned⟩

end Hint

end TypeHints
