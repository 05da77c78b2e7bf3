import TypeHints.Proofs.Calm
import TypeHints.Proofs.Likeness

/-!
# What a steady alias stands for

A steady alias gives hints of one key. For the kinds of hints that are interned this is enough: they
have one representative. Of the others, those that bring nothing along (`Hint.isInert`) do not
matter, and the rest are the same up to labels (`AliasBody.Steady.reread`): a key tells which text
is to be read, and which declared thing is meant. A thing that is declared anew by each reading
would change the key.

So two readings of one body have to be compared. They go by the same cases, and what they give is of
the same kind. `Hint.Reread` lists how two such hints can compare:

* both are interned, or both bring nothing along;
* they are one hint that was written into the body;
* they are texts, with the same text under two labels;
* they are parameters or aliases, each declared by its own reading.

The last way needs the order of the readings: what the first one declares has a label from before
its end, what the second one declares one from after its start. Since keys of declared things show
their labels, such hints have different keys, and no steady body gives them.

The comparison goes down through all that a body can be: objects with members
(`Parts.reread_assemble`), written values, raw hints and recipes.
-/

namespace TypeHints

open Attempt

/-- Decimals tell numbers apart. -/
theorem decimal_inj {n m : Nat} (h : decimal n = decimal m) : n = m := by
  have hchars := congrArg String.toList h
  simp only [decimal, decimalChars, String.toList_ofList] at hchars
  rw [← Nat.ofDigitChars_ten_toDigits (n := n), hchars, Nat.ofDigitChars_ten_toDigits]

theorem decimal_ne_empty (n : Nat) : decimal n ≠ "" := by
  intro h
  have hchars := congrArg String.toList h
  rw [decimal, String.toList_ofList] at hchars
  exact Nat.toDigits_ne_nil hchars

theorem notMem_decimal {c : Char} (hc : c.isDigit = false) (n : Nat) : c ∉ (decimal n).toList := by
  intro hmem
  rw [decimal, String.toList_ofList] at hmem
  have hdigit := Nat.isDigit_of_mem_toDigits (by decide) (by decide) hmem
  exact absurd hdigit (by rw [hc]; decide)

namespace Hint

/-- Whether a hint stands for itself and has no parts. A class may have an override, which its name
decides. -/
def isInert : Hint → Bool
  | .any | .primitive _ | .ofClass _ | .template _ | .forwardRef _ => true
  | _ => false

/-- Keys of declared things show their labels. -/
theorem nominalKey_inj {kind : String} {l m : Label}
    (h : nominalKey kind standardNumber l = nominalKey kind standardNumber m) : l = m := by
  have hlist := congrArg String.toList h
  simp only [nominalKey, String.toList_append] at hlist
  have hdecimal := decimal_inj (String.toList_inj.mp (List.append_cancel_left hlist))
  exact Nat.add_left_cancel hdecimal

/-- How two hints compare that were read from one body: the first one before the store `s`, the
second one from the store `t` on. -/
inductive Reread (s t : Store) : Hint → Hint → Prop
  | composite {h k : Hint} (first : Interner.isInternable h = true)
      (second : Interner.isInternable k = true) : Reread s t h k
  | inert {h k : Hint} (first : h.isInert = true) (second : k.isInert = true) : Reread s t h k
  | same (h : Hint) : Reread s t h h
  | deferred (l m : Label) (text : String) : Reread s t (.deferred l text) (.deferred m text)
  | parameter {p q : TypeParameter} (first : p.id < s.next) (second : t.next ≤ q.id) :
      Reread s t (.parameter p) (.parameter q)
  | alias {a b : Alias} (first : a.id < s.next) (second : t.next ≤ b.id) :
      Reread s t (.alias a) (.alias b)

end Hint

open Hint

/-! ### Written values -/

section Written

variable {ε : Type} {cs : Classes} {s s₁ s' t t₁ t' : Store} {h k : Hint}

namespace Parts

theorem lookup_map {β : Type} (f : Reading → β) (ps : Parts) (name : String) :
    (ps.map fun m ↦ (m.1, f m.2)).lookup name = (ps.lookup name).map f := by
  induction ps with
  | nil => rfl
  | cons m ps ih =>
    obtain ⟨n, r⟩ := m
    by_cases hn : name = n
    · simp [hn]
    · simpa [List.lookup_cons, beq_eq_false_iff_ne.mpr hn] using ih

/-- Members as values are looked up alike. -/
theorem value_congr {ps qs : Parts} (h : ps.map (fun m ↦ (m.1, m.2.value)) =
    qs.map (fun m ↦ (m.1, m.2.value))) (name : String) : ps.value name = qs.value name := by
  rw [value, value, ← lookup_map, h, lookup_map]

/-- Two objects with the same members as values stand for hints of one kind that compare: what they
have no label in is the same, and what they declare they declare anew. -/
theorem reread_assemble {s t : Store} {ps qs : Parts} {l m : Label} {h k : Hint}
    (hvalues : ps.map (fun m ↦ (m.1, m.2.value)) = qs.map (fun m ↦ (m.1, m.2.value)))
    (hl : l < s.next) (hm : t.next ≤ m) (hh : ps.assemble? cs l = some h)
    (hk : qs.assemble? cs m = some k) : Reread s t h k := by
  have htext (name : String) : ps.text? name = qs.text? name := by
    simp only [text?, value_congr hvalues name]
  obtain ⟨kind, hkind, hh⟩ := Option.bind_eq_some_iff.mp hh
  obtain ⟨kind', hkind', hk⟩ := Option.bind_eq_some_iff.mp hk
  cases hkind.symm.trans ((htext "kind").trans hkind')
  unfold ofKind at hh hk
  split at hh <;> cases hh <;> cases hk
  · exact .same _
  · exact .inert rfl rfl
  · exact .inert rfl rfl
  · exact .composite rfl rfl
  · exact .composite rfl rfl
  · exact .composite rfl rfl
  · exact .parameter hl hm
  · exact .inert rfl rfl
  · exact .alias hl hm
  · exact .composite rfl rfl
  · exact .inert rfl rfl
  · rw [htext]
    exact .deferred _ _ _

end Parts

namespace Value

/-- The reading of a value is a reading of this value. -/
theorem value_reading {v : Value} {s s' : Store} {r : Reading}
    (h : (reading cs v : Attempt Store ε Reading) s = (.ok r, s')) : r.value = v := by
  cases v with
  | array vs =>
    obtain ⟨_, _, -, h⟩ := bind_eq_ok_iff.mp h
    cases h
    rfl
  | object ms | bare ms =>
    obtain ⟨_, _, -, h⟩ := bind_eq_ok_iff.mp h
    obtain ⟨_, _, -, h⟩ := bind_eq_ok_iff.mp h
    cases h
    rfl
  | _ =>
    cases h
    rfl

theorem values_parts {ms : List (String × Value)} : ∀ {s s' : Store} {ps : Parts},
    (parts cs ms : Attempt Store ε Parts) s = (.ok ps, s') →
      ps.map (fun m ↦ (m.1, m.2.value)) = ms := by
  induction ms with
  | nil =>
    intro s s' ps h
    cases h
    rfl
  | cons m ms ih =>
    intro s s' ps h
    obtain ⟨r, s₁, hr, h⟩ := bind_eq_ok_iff.mp h
    obtain ⟨ps', s₂, hps, h⟩ := bind_eq_ok_iff.mp h
    cases h
    simp only [List.map_cons, ih hps, value_reading hr]

/-- A hint that an object stands for has the last label that reading it gives out. -/
theorem readParts_inv {ps : Parts} {s s' : Store} {h : Hint}
    (hr : (readParts cs ps : Attempt Store ε (Option Hint)) s = (.ok (some h), s')) :
    ps.assemble? cs s.next = some h ∧ s'.next = s.next + 1 := by
  obtain ⟨label, s₁, hl, hr⟩ := bind_eq_ok_iff.mp hr
  cases hl
  cases hh : ps.assemble? cs s.next with
  | none =>
    rw [hh] at hr
    cases hr
  | some k =>
    rw [hh] at hr
    obtain ⟨_, s₂, hm, hr⟩ := bind_eq_ok_iff.mp hr
    cases hr
    cases hm
    refine ⟨rfl, ?_⟩
    unfold Parts.record
    split <;> first
      | rfl
      | split <;> rfl

/-- Two readings of one object compare. -/
theorem reread_readParts {ms : List (String × Value)} {ps qs : Parts}
    (hps : (parts cs ms : Attempt Store ε Parts) s = (.ok ps, s₁))
    (hs : (readParts cs ps : Attempt Store ε (Option Hint)) s₁ = (.ok (some h), s'))
    (hqs : (parts cs ms : Attempt Store ε Parts) t = (.ok qs, t₁))
    (ht : (readParts cs qs : Attempt Store ε (Option Hint)) t₁ = (.ok (some k), t')) :
    Reread s' t h k := by
  obtain ⟨hh, hnext⟩ := readParts_inv hs
  obtain ⟨hk, -⟩ := readParts_inv ht
  have hgrows : t.next ≤ t₁.next := ((follows_parts (Store.records_grows cs) ms).of_run hqs).next
  refine Parts.reread_assemble ((values_parts hps).trans (values_parts hqs).symm) ?_ hgrows hh hk
  rw [hnext]
  exact Nat.lt_succ_self _

/-- Two readings of a value as a hint. -/
theorem reread_readHint {v : Value}
    (hs : (readHint cs v : Attempt Store ε (Option Hint)) s = (.ok (some h), s'))
    (ht : (readHint cs v : Attempt Store ε (Option Hint)) t = (.ok (some k), t')) :
    Reread s' t h k := by
  obtain ⟨r, s₁, hr, hs⟩ := bind_eq_ok_iff.mp hs
  obtain ⟨q, t₁, hq, ht⟩ := bind_eq_ok_iff.mp ht
  cases v with
  | hint =>
    cases hr
    cases hq
    cases hs
    cases ht
    exact .same _
  | array vs =>
    obtain ⟨_, _, -, hr⟩ := bind_eq_ok_iff.mp hr
    cases hr
    cases hs
  | object ms | bare ms =>
    obtain ⟨ps, s₂, hps, hr⟩ := bind_eq_ok_iff.mp hr
    obtain ⟨o, s₃, ho, hr⟩ := bind_eq_ok_iff.mp hr
    obtain ⟨qs, t₂, hqs, hq⟩ := bind_eq_ok_iff.mp hq
    obtain ⟨o', t₃, ho', hq⟩ := bind_eq_ok_iff.mp hq
    cases hr
    cases hq
    cases hs
    cases ht
    exact reread_readParts hps ho hqs ho'
  | _ =>
    cases hr
    cases hs

end Value

/-! ### Raw hints -/

/-- The ways in which a raw hint is coerced. -/
theorem coerce_inv {w : World} {v : Value} (hs : coerce w v s = (.ok h, s')) :
    (∃ l text, v = .string text ∧ h = .deferred l text) ∨
      (∃ l vs hs, v = .array vs ∧ h = .union l hs) ∨
      (∃ id c, v.hintClass? = some id ∧ h = .ofClass c) ∨
      (v.hintClass? = none ∧
        v.readHint w.classes s = ((.ok (some h), s') : Except Failure _ × Store)) := by
  unfold coerce at hs
  split at hs
  · cases hs
    exact .inl ⟨_, _, rfl, rfl⟩
  · obtain ⟨_, _, -, hs⟩ := bind_eq_ok_iff.mp hs
    obtain ⟨_, _, -, hs⟩ := bind_eq_ok_iff.mp hs
    cases hs
    exact .inr (.inl ⟨_, _, _, rfl, rfl⟩)
  · cases hid : v.hintClass? with
    | some id =>
      rw [hid] at hs
      obtain ⟨c, _, -, hs⟩ := bind_eq_ok_iff.mp hs
      cases hs
      exact .inr (.inr (.inl ⟨id, c, rfl, rfl⟩))
    | none =>
      rw [hid] at hs
      obtain ⟨o, _, ho, hs⟩ := bind_eq_ok_iff.mp hs
      cases o with
      | none => cases hs
      | some k =>
        cases hs
        exact .inr (.inr (.inr ⟨rfl, ho⟩))

/-- Two coercions of a raw hint. -/
theorem reread_coerce {w : World} {v : Value} (hs : coerce w v s = (.ok h, s'))
    (ht : coerce w v t = (.ok k, t')) : Reread s' t h k := by
  rcases coerce_inv hs with ⟨l, text, rfl, rfl⟩ | ⟨l, vs, hs, rfl, rfl⟩ | ⟨id, c, hid, rfl⟩ |
    ⟨hid, hs⟩
  · cases ht
    exact .deferred _ _ _
  · rcases coerce_inv ht with ⟨_, _, hv, -⟩ | ⟨_, _, _, -, rfl⟩ | ⟨_, _, hid', -⟩ | ⟨-, ht⟩
    · cases hv
    · exact .composite rfl rfl
    · cases hid'
    · obtain ⟨_, _, ht, hlast⟩ := bind_eq_ok_iff.mp ht
      obtain ⟨_, _, -, ht⟩ := bind_eq_ok_iff.mp ht
      cases ht
      cases hlast
  · rcases coerce_inv ht with ⟨_, _, rfl, -⟩ | ⟨_, _, _, rfl, -⟩ | ⟨_, _, -, rfl⟩ | ⟨hid', -⟩
    · cases hid
    · cases hid
    · exact .inert rfl rfl
    · rw [hid] at hid'
      cases hid'
  · rcases coerce_inv ht with ⟨_, _, rfl, -⟩ | ⟨_, _, _, rfl, -⟩ | ⟨_, _, hid', -⟩ | ⟨-, ht⟩
    · obtain ⟨_, _, hr, hlast⟩ := bind_eq_ok_iff.mp hs
      cases hr
      cases hlast
    · obtain ⟨_, _, hr, hlast⟩ := bind_eq_ok_iff.mp hs
      obtain ⟨_, _, -, hr⟩ := bind_eq_ok_iff.mp hr
      cases hr
      cases hlast
    · rw [hid] at hid'
      cases hid'
    · exact Value.reread_readHint hs ht

/-- A raw hint that is to be interned is coerced like any other, if it has a key. -/
theorem coerceKeyed_eq_ok_iff {w : World} {v : Value} :
    coerceKeyed w v s = (.ok h, s') ↔ coerce w v s = (.ok h, s') ∧ v.keyFault? w.classes = none := by
  unfold coerceKeyed
  rw [bind_eq_ok_iff]
  cases v.keyFault? w.classes with
  | none =>
    refine ⟨?_, fun hs ↦ ⟨h, s', hs.1, rfl⟩⟩
    rintro ⟨k, t, hk, hlast⟩
    cases hlast
    exact ⟨hk, rfl⟩
  | some message =>
    refine iff_of_false ?_ nofun
    rintro ⟨_, _, -, hlast⟩
    cases hlast

/-- A hint is coerced to itself. -/
theorem coerceKeyed_hint (w : World) (m : Hint) (s : Store) :
    coerceKeyed w (.hint m) s = (.ok m, s) := rfl

end Written

/-! ### Bodies of aliases -/

section Bodies

variable {w : World} {s s' t t' : Store} {h k : Hint}

/-- Two hints that one recipe builds. -/
theorem HintRecipe.reread_build {ε : Type} {cs : Classes} {r : HintRecipe}
    (hs : (r.build cs : Attempt Store ε Hint) s = (.ok h, s'))
    (ht : (r.build cs : Attempt Store ε Hint) t = (.ok k, t')) : Reread s' t h k := by
  cases r with
  | existing m =>
    cases hs
    cases ht
    exact .same _
  | ofClass id =>
    obtain ⟨_, _, -, hs⟩ := bind_eq_ok_iff.mp hs
    obtain ⟨_, _, -, ht⟩ := bind_eq_ok_iff.mp ht
    cases hs
    cases ht
    exact .inert rfl rfl
  | literal v =>
    cases hs
    cases ht
    exact .composite rfl rfl
  | union rs | tuple rs | subscripted o rs =>
    obtain ⟨_, _, -, hs⟩ := bind_eq_ok_iff.mp hs
    obtain ⟨_, _, -, hs⟩ := bind_eq_ok_iff.mp hs
    obtain ⟨_, _, -, ht⟩ := bind_eq_ok_iff.mp ht
    obtain ⟨_, _, -, ht⟩ := bind_eq_ok_iff.mp ht
    cases hs
    cases ht
    exact .composite rfl rfl
  | deferred text =>
    cases hs
    cases ht
    exact .deferred _ _ _

/-- Two hints that one body of an alias gives. -/
theorem AliasBody.reread_hint {b : AliasBody} {name name' : String}
    (hs : b.hint w name s = (.ok h, s')) (ht : b.hint w name' t = (.ok k, t')) :
    Reread s' t h k := by
  obtain ⟨v, s₁, hv, hs⟩ := bind_eq_ok_iff.mp hs
  obtain ⟨u, t₁, hu, ht⟩ := bind_eq_ok_iff.mp ht
  cases b with
  | failure message => cases hv
  | thrown v =>
    obtain ⟨_, _, -, hv⟩ := bind_eq_ok_iff.mp hv
    cases hv
  | value recipe =>
    cases recipe with
    | value v =>
      cases hv
      cases hu
      exact reread_coerce (coerceKeyed_eq_ok_iff.mp hs).1 (coerceKeyed_eq_ok_iff.mp ht).1
    | list rs =>
      obtain ⟨vs, _, -, hv⟩ := bind_eq_ok_iff.mp hv
      obtain ⟨us, _, -, hu⟩ := bind_eq_ok_iff.mp hu
      cases hv
      cases hu
      obtain ⟨_, _, -, hs⟩ := bind_eq_ok_iff.mp (coerceKeyed_eq_ok_iff.mp hs).1
      obtain ⟨_, _, -, hs⟩ := bind_eq_ok_iff.mp hs
      obtain ⟨_, _, -, ht⟩ := bind_eq_ok_iff.mp (coerceKeyed_eq_ok_iff.mp ht).1
      obtain ⟨_, _, -, ht⟩ := bind_eq_ok_iff.mp ht
      cases hs
      cases ht
      exact .composite rfl rfl
    | hint r =>
      obtain ⟨h', _, hh, hv⟩ := bind_eq_ok_iff.mp hv
      obtain ⟨k', _, hk, hu⟩ := bind_eq_ok_iff.mp hu
      cases hv
      cases hu
      rw [coerceKeyed_hint] at hs ht
      cases hs
      cases ht
      exact HintRecipe.reread_build hh hk

/-- Two hints that a steady body gives, one after the other: both are interned under one key, both
bring nothing along, or they are alike. -/
theorem AliasBody.Steady.reread {b : AliasBody} (hb : b.Steady w) {name name' : String}
    (hs : b.hint w name s = (.ok h, s')) (ht : b.hint w name' t = (.ok k, t'))
    (hst : s'.next ≤ t.next) :
    (Interner.isInternable h = true ∧ Interner.isInternable k = true ∧ h.stableKey = k.stableKey) ∨
      (h.isInert = true ∧ k.isInert = true) ∨ Hint.Alike Eq false h k := by
  have hkey := hb.key _ _ _ _ _ _ _ _ hs ht
  cases AliasBody.reread_hint hs ht with
  | composite hi hi' => exact .inl ⟨hi, hi', hkey⟩
  | inert hi hi' => exact .inr (.inl ⟨hi, hi'⟩)
  | same _ => exact .inr (.inr (.refl (fun _ ↦ rfl) _))
  | deferred l m text => exact .inr (.inr (.deferred l m text))
  | parameter hp hq =>
    -- the second reading has declared a parameter of its own, which changes the key
    exact absurd (nominalKey_inj hkey) (Nat.ne_of_lt (Nat.lt_of_lt_of_le hp (Nat.le_trans hst hq)))
  | «alias» ha hb =>
    exact absurd (nominalKey_inj hkey) (Nat.ne_of_lt (Nat.lt_of_lt_of_le ha (Nat.le_trans hst hb)))

end Bodies

end TypeHints
