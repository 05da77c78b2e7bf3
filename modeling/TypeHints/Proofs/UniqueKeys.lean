import TypeHints.Proofs.Keys
import TypeHints.Proofs.MemberOrder
import TypeHints.Proofs.NumberTexts
import TypeHints.Proofs.Quotes
import TypeHints.Proofs.Transparency

/-!
# Hints that their keys tell apart

Keys are joins without escapes. A key can still be read back (`Hint.Readable`) if the hint is safe:
no tuple in it, no union directly in a union, and no text in its key but in quotes. Then a bar ends
the key of anything but a union, and a comma or a closing bracket ends any key, so what the key says
is read from its front on.

The conditions on a hint are there for these reasons:

* a tuple is keyed by its elements with commas between them and nothing to close it, so that a tuple
  within a tuple or within arguments runs into what follows it. At the root a tuple does no harm;
* a union is keyed by its members with bars between them, so that a union within a union could not
  be told from its members;
* the name of a primitive type that was written down by hand may hold any signs.

`Hint.Readable` says of a hint that its key in front of whatever may follow it (`Hint.Follows`) is
only the key of hints that are alike. It is proved by induction on the hint. Leaves are words or
quoted texts (`readable_of_isWord`, `readable_literal`); for the rest, joined keys are cut into
their pieces by what is known of each piece (`joinWith_stableKeys_inj`). The members of a union are
sorted in the key, so that unions with one key have the same members up to order
(`exists_alikeAll_of_keys_perm`).

Declared things are keyed by number, so keys say as much of them as labels do: `Substitution.Apart`
says that different things have different labels.
-/

namespace TypeHints.Hint

open Text

/-! ### Safe hints -/

mutual

/-- Whether the key of a hint can be read back wherever it stands. -/
def isSafe : Hint → Bool
  | .primitive p => isWord p.name
  | .literal _ v => v.isSafe
  | .union _ hs => hs.all (fun h => !h.isUnion) && areSafe hs
  | .tuple _ _ => false
  | .subscripted _ _ hs => areSafe hs
  | .any | .ofClass _ | .parameter _ | .template _ | .alias _ | .forwardRef _ | .deferred _ _ => true

/-- Whether the keys of hints can be read back wherever they stand. -/
def areSafe : List Hint → Bool
  | [] => true
  | h :: hs => isSafe h && areSafe hs

end

/-- Whether the key of a hint can be read back where nothing stands behind it. -/
def isSafeAtRoot : Hint → Bool
  | .tuple _ hs => areSafe hs
  | h => h.isSafe

mutual

/-- The declared things in a hint, origins among them. -/
def declared : Hint → List Hint
  | .ofClass c => [.ofClass c]
  | .parameter p => [.parameter p]
  | .template t => [.template t]
  | .alias a => [.alias a]
  | .forwardRef r => [.forwardRef r]
  | .union _ hs => declaredAll hs
  | .tuple _ hs => declaredAll hs
  | .subscripted _ o hs => o.toHint :: declaredAll hs
  | .any | .primitive _ | .literal _ _ | .deferred _ _ => []

/-- The declared things in hints. -/
def declaredAll : List Hint → List Hint
  | [] => []
  | h :: hs => declared h ++ declaredAll hs

end

/-- A safe hint whose declared things are among given ones. -/
structure Admitted (D : List Hint) (h : Hint) : Prop where
  safe : h.isSafe = true
  known : h.declared ⊆ D

/-- Hints that may be the members or arguments of a safe one. -/
structure AllAdmitted (D : List Hint) (hs : List Hint) : Prop where
  safe : areSafe hs = true
  known : declaredAll hs ⊆ D

variable {D : List Hint} {h k : Hint} {hs ks : List Hint} {r r' : List Char}

namespace AllAdmitted

/-- The first of some admitted hints is admitted. -/
theorem head (hh : AllAdmitted D (h :: hs)) : Admitted D h where
  safe := (Bool.and_eq_true_iff.mp hh.safe).1
  known := fun _ hx ↦ hh.known (List.mem_append_left _ hx)

/-- The others are admitted, too. -/
theorem tail (hh : AllAdmitted D (h :: hs)) : AllAdmitted D hs where
  safe := (Bool.and_eq_true_iff.mp hh.safe).2
  known := fun _ hx ↦ hh.known (List.mem_append_right _ hx)

/-- Each of them is admitted. -/
theorem admitted (hhs : AllAdmitted D hs) : ∀ h ∈ hs, Admitted D h := by
  induction hs with
  | nil => exact fun _ hh ↦ (by cases hh)
  | cons h hs ih => exact List.forall_mem_cons.mpr ⟨hhs.head, ih hhs.tail⟩

end AllAdmitted

namespace Admitted

variable {l : Label} {o : Origin}

/-- The members of an admitted union are admitted. -/
theorem members (hh : Admitted D (.union l hs)) : AllAdmitted D hs :=
  ⟨(Bool.and_eq_true_iff.mp hh.safe).2, hh.known⟩

/-- None of them is a union. -/
theorem members_isUnion (hh : Admitted D (.union l hs)) : ∀ h ∈ hs, h.isUnion = false := by
  have hall := List.all_eq_true.mp (Bool.and_eq_true_iff.mp hh.safe).1
  exact fun h hmem ↦ by simpa using hall h hmem

/-- The arguments of an admitted application are admitted. -/
theorem args (hh : Admitted D (.subscripted l o hs)) : AllAdmitted D hs :=
  ⟨hh.safe, fun _ hx ↦ hh.known (List.mem_cons_of_mem _ hx)⟩

/-- Its origin is admitted as a hint of its own. -/
theorem origin (hh : Admitted D (.subscripted l o hs)) : Admitted D o.toHint := by
  have hmem : o.toHint ∈ D := hh.known List.mem_cons_self
  have hsub : [o.toHint] ⊆ D := List.cons_subset.mpr ⟨hmem, List.nil_subset _⟩
  cases o <;> exact ⟨rfl, hsub⟩

end Admitted

/-! ### Marks of kinds -/

/-- The mark that the key of a hint opens with, by the name of its kind. -/
def keyMark (kind : String) : String :=
  if kind = "primitive" then "prim" else if kind = "literal" then "lit"
  else if kind = "subscripted" then "sub" else kind

theorem kindName_mem_kindNames (h : Hint) : h.kindName ∈ kindNames := by
  cases h <;> simp [kindName, kindNames]

/-- The key of a hint opens with the mark of its kind. -/
theorem marked_key (h : Hint) : Marked (keyMark h.kindName) h.stableKey := by
  have hletters : ∀ kind ∈ kindNames, isMark (keyMark kind) = true := by decide
  have hmark := hletters _ h.kindName_mem_kindNames
  cases h with
  | any => exact marked_self hmark
  | subscripted l o hs =>
    rw [stableKey, key, String.append_assoc, String.append_assoc, String.append_assoc]
    exact marked_append hmark _
  | _ => exact marked_append hmark _

/-! ### Keys in front of a text -/

/-- A text that may stand behind the key of a hint: it is empty or opens with a sign, but not with a
bar behind a union. -/
structure Follows (h : Hint) (r : List Char) : Prop where
  stops : Stops r
  bar : h.isUnion = true → r.head? ≠ some '|'

/-- Nothing may stand behind any key. -/
theorem follows_nil (h : Hint) : Follows h [] :=
  ⟨fun c hc ↦ (by cases hc), fun _ hbar ↦ (by cases hbar)⟩

/-- A comma or a bracket may stand behind any key. -/
theorem follows_cons {c : Char} (hc : c ∈ [',', '<', '>']) (h : Hint) (r : List Char) :
    Follows h (c :: r) := by
  refine ⟨?_, ?_⟩
  · rintro d ⟨⟩
    have hsub : [',', '<', '>'] ⊆ keySigns := by decide
    exact hsub hc
  · rintro - ⟨⟩
    exact absurd hc (by decide)

/-- What stands behind a key does not go on with a letter. -/
theorem Stops.isAlpha_head (hr : Stops r) : ∀ c ∈ r.head?, c.isAlpha = false := by
  have hsigns : keySigns.all (!·.isAlpha) = true := by decide
  exact fun c hc ↦ (Bool.not_eq_true' _).mp (List.all_eq_true.mp hsigns c (hr c hc))

/-- Keys that agree are keys of one kind. -/
theorem kindName_eq_of_append (hr : Stops r) (hr' : Stops r')
    (heq : h.stableKey.toList ++ r = k.stableKey.toList ++ r') : h.kindName = k.kindName := by
  have hinj : ∀ a ∈ kindNames, ∀ b ∈ kindNames, keyMark a = keyMark b → a = b := by decide
  refine hinj _ (kindName_mem_kindNames _) _ (kindName_mem_kindNames _) ?_
  exact (marked_key _).inj (marked_key _) (Stops.isAlpha_head hr) (Stops.isAlpha_head hr') heq

/-- The key of a hint can be told from whatever may stand behind it, and tells the hint apart from
the safe hints that are not alike. -/
def Readable (D : List Hint) (h : Hint) : Prop :=
  ∀ k r r', Admitted D k → Follows h r → Follows k r' →
    h.stableKey.toList ++ r = k.stableKey.toList ++ r' → Alike (· = ·) true h k ∧ r = r'

/-- Readable hints with one key are alike. -/
theorem Readable.alike (hh : Readable D h) (hk : Admitted D k) (heq : h.stableKey = k.stableKey) :
    Alike (· = ·) true h k :=
  (hh k [] [] hk (follows_nil h) (follows_nil k) (by rw [heq])).1

/-! ### Leaves -/

/-- A hint is readable if its key and those of its kind are words that tell hints apart. -/
theorem readable_of_isWord (hword : ∀ k, k = h ∨ Admitted D k → k.kindName = h.kindName →
      isWord k.stableKey = true)
    (halike : ∀ k, Admitted D k → k.kindName = h.kindName → h.stableKey = k.stableKey →
      Alike (· = ·) true h k) : Readable D h := by
  intro k r r' hk hr hr' heq
  have hkind := kindName_eq_of_append hr.stops hr'.stops heq
  obtain ⟨hkey, hrr⟩ := append_inj_of_isWord (hword h (.inl rfl) rfl) (hword k (.inr hk) hkind.symm)
    hr.stops hr'.stops heq
  exact ⟨halike k hk hkind.symm hkey, hrr⟩

/-- The number at the end of a key is the label. -/
theorem label_eq_of_nominalKey {kind : String} {a b : Label}
    (heq : nominalKey kind standardNumber a = nominalKey kind standardNumber b) : a = b := by
  have hchars := congrArg String.toList heq
  simp only [nominalKey, String.toList_append] at hchars
  have hnumber : 100000 + a = 100000 + b :=
    decimal_inj (String.toList_inj.mp (List.append_cancel_left hchars))
  exact Nat.add_left_cancel hnumber

/-- The kinds of hints that are keyed by number. -/
def numberedKinds : List String := ["class", "typeParameter", "generic", "alias", "forwardRef"]

/-- Hints of these kinds are keyed by their labels, and are declared things. -/
theorem stableKey_of_nominal (hk : k.kindName ∈ numberedKinds) :
    k.stableKey = nominalKey k.kindName standardNumber k.label ∧ k ∈ k.declared := by
  cases k <;> first
    | exact ⟨rfl, List.mem_singleton_self _⟩
    | simp [kindName, numberedKinds] at hk

/-- Hints that are keyed by number are readable. -/
theorem readable_of_nominal (hD : Substitution.Apart D) (hh : Admitted D h)
    (hkind : h.kindName ∈ numberedKinds) : Readable D h := by
  have hwords : ∀ kind ∈ numberedKinds, isWord kind = true := by decide
  have hcolon : isWord ":" = true := by decide
  refine readable_of_isWord (fun k _ hk ↦ ?_) fun k hk hsame heq ↦ ?_
  · rw [(stableKey_of_nominal (hk ▸ hkind)).1, nominalKey, isWord_append, isWord_append,
      isWord_decimal, hwords _ (hk ▸ hkind), hcolon]
    rfl
  · obtain ⟨hkey, hmem⟩ := stableKey_of_nominal hkind
    obtain ⟨hkey', hmem'⟩ := stableKey_of_nominal (hsame ▸ hkind)
    rw [hkey, hkey', hsame] at heq
    obtain rfl := hD h (hh.known hmem) k (hk.known hmem') (label_eq_of_nominalKey heq)
    exact .refl (fun _ ↦ rfl) h

/-- Origins are declared things, and so are readable. -/
theorem readable_origin (hD : Substitution.Apart D) {o : Origin} (ho : Admitted D o.toHint) :
    Readable D o.toHint :=
  readable_of_nominal hD ho (by cases o <;> simp [Origin.toHint, kindName, numberedKinds])

theorem readable_any : Readable D .any := by
  refine readable_of_isWord (fun k _ hk ↦ ?_) fun k _ hk _ ↦ ?_ <;>
    cases k <;> simp only [kindName, String.reduceEq] at hk
  · decide
  · exact .any

/-- A primitive type with a plain name is readable. -/
theorem readable_primitive {p : Primitive} (hp : isWord p.name = true) :
    Readable D (.primitive p) := by
  have hmark : isWord "prim:" = true := by decide
  refine readable_of_isWord (fun k hk hkind ↦ ?_) fun k _ hk heq ↦ ?_
  · cases k <;> simp only [kindName, String.reduceEq] at hkind
    rename_i q
    have hq : isWord q.name = true := by
      rcases hk with hk | hk
      · rwa [Hint.primitive.inj hk]
      · exact hk.safe
    show isWord ("prim:" ++ q.name) = true
    rw [isWord_append, hmark, hq]
    rfl
  · cases k <;> simp only [kindName, String.reduceEq] at hk
    rename_i q
    have hchars := congrArg String.toList heq
    simp only [stableKey, key, String.toList_append] at hchars
    exact .primitive (String.toList_inj.mp (List.append_cancel_left hchars))

/-- A literal that is no text and no negative zero is readable. -/
theorem readable_literal {l : Label} {v : Literal} (hv : v.isSafe = true) :
    Readable D (.literal l v) := by
  have hmark : isWord "lit:" = true := by decide
  refine readable_of_isWord (fun k hk hkind ↦ ?_) fun k hk hkind heq ↦ ?_
  · cases k <;> simp only [kindName, String.reduceEq] at hkind
    rename_i m w
    have hw : w.isSafe = true := by
      rcases hk with hk | hk
      · rwa [(Hint.literal.inj hk).2]
      · exact hk.safe
    show isWord ("lit:" ++ w.key) = true
    rw [isWord_append, hmark, Literal.isWord_key hw]
    rfl
  · cases k <;> simp only [kindName, String.reduceEq] at hkind
    rename_i m w
    have hchars := congrArg String.toList heq
    simp only [stableKey, key, String.toList_append] at hchars
    obtain rfl := Literal.key_inj hv hk.safe
      (String.toList_inj.mp (List.append_cancel_left hchars))
    exact .literal l m v

/-- A deferred hint is readable, since its text stands in quotes. -/
theorem readable_deferred (l : Label) (t : String) : Readable D (.deferred l t) := by
  intro k r r' hk hr hr' heq
  have hkind := kindName_eq_of_append hr.stops hr'.stops heq
  cases k <;> simp only [kindName, String.reduceEq] at hkind
  rename_i m u
  simp only [stableKey, key, String.toList_append, List.append_assoc] at heq
  obtain ⟨rfl, hrr⟩ := quote_append_inj (List.append_cancel_left heq)
  exact ⟨.deferred l m t, hrr⟩

/-! ### Lists of hints -/

/-- Hints are alike in order if their keys agree and tell them apart. -/
theorem alikeAll_of_keys_eq : ∀ {hs ks : List Hint},
    (∀ h ∈ hs, ∀ k ∈ ks, h.stableKey = k.stableKey → Alike (· = ·) true h k) →
      hs.map stableKey = ks.map stableKey → AlikeAll (· = ·) true hs ks
  | [], [], _, _ => .nil
  | [], _ :: _, _, heq => by cases heq
  | _ :: _, [], _, heq => by cases heq
  | h :: hs, k :: ks, halike, heq => by
    rw [List.map_cons, List.map_cons, List.cons.injEq] at heq
    refine .cons (halike h List.mem_cons_self k List.mem_cons_self heq.1) ?_
    exact alikeAll_of_keys_eq (fun a ha b hb ↦
      halike a (List.mem_cons_of_mem _ ha) b (List.mem_cons_of_mem _ hb)) heq.2

/-- Keys open with a letter. -/
theorem opens_stableKey (h : Hint) : Opens h.stableKey := by
  obtain ⟨hletters, rest, hkey, -⟩ := marked_key h
  have hne : ∀ kind ∈ kindNames, (keyMark kind).toList ≠ [] := by decide
  obtain ⟨c, cs, hmark⟩ := List.exists_cons_of_ne_nil (hne _ h.kindName_mem_kindNames)
  rw [hmark] at hkey
  have hc : c ∈ (keyMark h.kindName).toList := hmark ▸ List.mem_cons_self
  exact ⟨c, cs ++ rest, hkey, List.all_eq_true.mp hletters c hc⟩

/-- Joined keys in front of a text are read back piece by piece. -/
theorem joinWith_stableKeys_inj {sep : Char} {F : List Char → Prop} (hsep : ∀ cs, F (sep :: cs))
    {ss ts : List String} (hss : ∀ s ∈ ss, ∃ h ∈ hs, h.stableKey = s)
    (hts : ∀ t ∈ ts, ∃ k ∈ ks, k.stableKey = t) (hhs : ∀ h ∈ hs, Readable D h)
    (hks : ∀ k ∈ ks, Admitted D k) (hfollows : ∀ h, h ∈ hs ∨ h ∈ ks → ∀ r, F r → Follows h r)
    (hr : F r) (hr' : F r') (hend : Ends sep r) (hend' : Ends sep r')
    (heq : (joinWith (String.ofList [sep]) ss).toList ++ r =
      (joinWith (String.ofList [sep]) ts).toList ++ r') : ss = ts ∧ r = r' := by
  refine joinWith_append_inj hsep (fun s hs t ht r r' hr hr' heq ↦ ?_) (fun s hs ↦ ?_)
    (fun t ht ↦ ?_) hr hr' hend hend' heq
  · obtain ⟨h, hmem, rfl⟩ := hss s hs
    obtain ⟨k, hmem', rfl⟩ := hts t ht
    exact (hhs h hmem k r r' (hks k hmem') (hfollows h (.inl hmem) r hr)
      (hfollows k (.inr hmem') r' hr') heq).2
  · obtain ⟨h, -, rfl⟩ := hss s hs
    exact opens_stableKey h
  · obtain ⟨k, -, rfl⟩ := hts t ht
    exact opens_stableKey k

/-! ### Composite hints -/

/-- Keys of hints are keys of one of them. -/
theorem mem_keys {s : String} : s ∈ keys standardNumber hs → ∃ h ∈ hs, h.stableKey = s := by
  rw [keys_eq_map]
  exact List.mem_map.mp

/-- Keys that are the same when sorted are the same up to order. -/
theorem perm_of_sortTexts_eq
    (h : sortTexts (keys standardNumber hs) = sortTexts (keys standardNumber ks)) :
    (hs.map stableKey).Perm (ks.map stableKey) := by
  have hperm := (sortTexts_perm (keys standardNumber hs)).symm.trans
    (h ▸ sortTexts_perm (keys standardNumber ks))
  rw [keys_eq_map, keys_eq_map] at hperm
  exact hperm

/-- Hints are alike up to order if their keys agree up to order and tell them apart. -/
theorem exists_alikeAll_of_keys_perm
    (halike : ∀ h ∈ hs, ∀ k ∈ ks, h.stableKey = k.stableKey → Alike (· = ·) true h k)
    (hperm : (hs.map stableKey).Perm (ks.map stableKey)) :
    ∃ ws, AlikeAll (· = ·) true hs ws ∧ ws.Perm ks := by
  have hself : List.Forall₂ (fun t k ↦ t = stableKey k) (ks.map stableKey) ks :=
    List.forall₂_map_left_iff.mpr (List.forall₂_same.mpr fun _ _ ↦ rfl)
  obtain ⟨ws, hkeys, hws⟩ := List.perm_comp_forall₂ hperm hself
  refine ⟨ws, alikeAll_of_keys_eq (fun h hh k hk ↦ halike h hh k (hws.subset hk)) ?_, hws⟩
  rwa [← List.forall₂_eq_eq_eq, List.forall₂_map_right_iff]

/-- A union is readable if its members are. What stands behind its key opens with no bar, so the last
bar is one between members. -/
theorem readable_union {l : Label} (hh : Admitted D (.union l hs))
    (hmembers : ∀ m ∈ hs, Readable D m) : Readable D (.union l hs) := by
  intro k r r' hk hr hr' heq
  have hkind := kindName_eq_of_append hr.stops hr'.stops heq
  cases k <;> simp only [kindName, String.reduceEq] at hkind
  rename_i m ks
  simp only [stableKey, key, String.toList_append, List.append_assoc] at heq
  have hends {h : Hint} (hunion : h.isUnion = true) {r : List Char} (hr : Follows h r) :
      Ends '|' r :=
    fun c hc ↦ ⟨by rintro rfl; exact hr.bar hunion hc, Stops.isAlpha_head hr.stops c hc⟩
  have hmember : ∀ h, h ∈ hs ∨ h ∈ ks → h.isUnion = false := fun h hmem ↦
    hmem.elim (hh.members_isUnion h) (hk.members_isUnion h)
  have hpieces {hs : List Hint} : ∀ s ∈ sortTexts (keys standardNumber hs),
      ∃ h ∈ hs, h.stableKey = s := fun s hs ↦ mem_keys ((sortTexts_perm _).subset hs)
  have hbar (cs : List Char) : Stops ('|' :: cs) := by
    rintro c ⟨⟩
    decide
  -- the sorted keys are read back, and the members are their keys in some order
  obtain ⟨hsorted, hrr⟩ := joinWith_stableKeys_inj hbar hpieces hpieces hmembers hk.members.admitted
    (fun h hmem r hr ↦ ⟨hr, fun hunion ↦ by rw [hmember h hmem] at hunion; cases hunion⟩)
    hr.stops hr'.stops (hends rfl hr) (hends rfl hr') (List.append_cancel_left heq)
  obtain ⟨ws, halike, hperm⟩ := exists_alikeAll_of_keys_perm
    (fun a ha b hb ↦ (hmembers a ha).alike (hk.members.admitted b hb)) (perm_of_sortTexts_eq hsorted)
  exact ⟨.union l m halike hperm fun hmixed ↦ (by cases hmixed), hrr⟩

/-- Arguments are read back up to the bracket that closes them, or to the end. -/
theorem alikeAll_of_joinWith (hhs : ∀ h ∈ hs, Readable D h) (hks : ∀ k ∈ ks, Admitted D k)
    (hr : ∀ c ∈ r.head?, c = '>') (hr' : ∀ c ∈ r'.head?, c = '>')
    (heq : (joinWith "," (keys standardNumber hs)).toList ++ r =
      (joinWith "," (keys standardNumber ks)).toList ++ r') :
    AlikeAll (· = ·) true hs ks ∧ r = r' := by
  have hcomma (cs : List Char) : ∀ c ∈ (',' :: cs).head?, c = ',' ∨ c = '>' := by
    rintro c ⟨⟩
    exact .inl rfl
  have hfollows (h : Hint) (r : List Char) (hr : ∀ c ∈ r.head?, c = ',' ∨ c = '>') :
      Follows h r := by
    cases r with
    | nil => exact follows_nil h
    | cons c r => exact follows_cons (by rcases hr c rfl with rfl | rfl <;> decide) h r
  have hends {r : List Char} (hr : ∀ c ∈ r.head?, c = '>') : Ends ',' r := by
    intro c hc
    rw [hr c hc]
    decide
  obtain ⟨hkeys, hrr⟩ := joinWith_stableKeys_inj hcomma (fun _ ↦ mem_keys) (fun _ ↦ mem_keys) hhs hks
    (fun h _ ↦ hfollows h) (fun c hc ↦ .inr (hr c hc)) (fun c hc ↦ .inr (hr' c hc)) (hends hr)
    (hends hr') heq
  rw [keys_eq_map, keys_eq_map] at hkeys
  exact ⟨alikeAll_of_keys_eq (fun h hh k hk ↦ (hhs h hh).alike (hks k hk)) hkeys, hrr⟩

/-- Behind the bracket that closes its arguments an application is readable as they are. -/
theorem readable_subscripted (hD : Substitution.Apart D) {l : Label} {o : Origin}
    (hh : Admitted D (.subscripted l o hs)) (hargs : ∀ a ∈ hs, Readable D a) :
    Readable D (.subscripted l o hs) := by
  intro k r r' hk hr hr' heq
  have hkind := kindName_eq_of_append hr.stops hr'.stops heq
  cases k <;> simp only [kindName, String.reduceEq] at hkind
  rename_i m p ks
  simp only [stableKey, key, String.toList_append, List.append_assoc] at heq
  have horiginKey (o : Origin) : originKey standardNumber o = o.toHint.stableKey := by
    cases o <;> rfl
  have hopen : "<".toList = ['<'] := rfl
  have hbracket : ">".toList = ['>'] := rfl
  simp only [horiginKey, hopen, hbracket, List.singleton_append] at heq
  have hfollows := follows_cons (show '<' ∈ [',', '<', '>'] by decide)
  -- first the origin is read back, up to the opening bracket, and then the arguments
  obtain ⟨horigin, hrest⟩ := readable_origin hD hh.origin _ _ _ hk.origin (hfollows _ _)
    (hfollows _ _) (List.append_cancel_left heq)
  have hclose (r : List Char) : ∀ c ∈ ('>' :: r).head?, c = '>' := by
    rintro c ⟨⟩
    rfl
  obtain ⟨hargs, hrr⟩ := alikeAll_of_joinWith hargs hk.args.admitted (hclose r) (hclose r')
    (List.cons.inj hrest).2
  refine ⟨?_, (List.cons.inj hrr).2⟩
  cases o <;> cases p <;> cases horigin
  · exact .appliedTemplate l m _ hargs
  · exact .appliedAlias l m _ hargs
  · exact .appliedRef l m ‹_› hargs

mutual

/-- Safe hints are readable. -/
theorem readable (hD : Substitution.Apart D) : ∀ h : Hint, Admitted D h → Readable D h
  | .any, _ => readable_any
  | .primitive _, hh => readable_primitive hh.safe
  | .literal _ _, hh => readable_literal hh.safe
  | .deferred l t, _ => readable_deferred l t
  | .union _ hs, hh => readable_union hh (readableAll hD hs hh.members)
  | .subscripted _ _ hs, hh => readable_subscripted hD hh (readableAll hD hs hh.args)
  | .ofClass _, hh | .parameter _, hh | .template _, hh | .alias _, hh | .forwardRef _, hh =>
    readable_of_nominal hD hh (by simp [kindName, numberedKinds])
  | .tuple _ _, hh => by cases hh.safe

theorem readableAll (hD : Substitution.Apart D) :
    ∀ hs : List Hint, AllAdmitted D hs → ∀ h ∈ hs, Readable D h
  | [], _ => fun _ hmem ↦ (by cases hmem)
  | h :: hs, hhs => List.forall_mem_cons.mpr ⟨readable hD h hhs.head, readableAll hD hs hhs.tail⟩

end

/-- Hints that are safe at the root are alike up to the order of members if they share their key. -/
theorem alike_of_stableKey_eq (hD : Substitution.Apart D) (hh : h.isSafeAtRoot = true)
    (hk : k.isSafeAtRoot = true) (hknown : h.declared ⊆ D) (hknown' : k.declared ⊆ D)
    (heq : h.stableKey = k.stableKey) : Alike (· = ·) true h k := by
  have hnil : Stops [] := fun c hc ↦ (by cases hc)
  have hkind : h.kindName = k.kindName := kindName_eq_of_append hnil hnil (by rw [heq])
  by_cases htuple : h.kindName = "tuple"
  · have htuple' := htuple
    rw [hkind] at htuple'
    cases h <;> simp only [kindName, String.reduceEq] at htuple
    cases k <;> simp only [kindName, String.reduceEq] at htuple'
    rename_i l hs m ks
    have hchars := congrArg String.toList heq
    simp only [stableKey, key, String.toList_append] at hchars
    have hall : AllAdmitted D hs := ⟨hh, hknown⟩
    have hall' : AllAdmitted D ks := ⟨hk, hknown'⟩
    have hend : ∀ c ∈ ([] : List Char).head?, c = '>' := fun c hc ↦ (by cases hc)
    obtain ⟨hargs, -⟩ := alikeAll_of_joinWith (readableAll hD hs hall) hall'.admitted hend hend
      (congrArg (· ++ []) (List.append_cancel_left hchars))
    exact .tuple l m hargs
  · have hsafe {h : Hint} (hkind : h.kindName ≠ "tuple") : h.isSafeAtRoot = h.isSafe := by
      cases h <;> first | rfl | exact absurd rfl hkind
    have hadmitted : Admitted D h := ⟨hsafe htuple ▸ hh, hknown⟩
    exact (readable hD h hadmitted).alike ⟨hsafe (hkind ▸ htuple) ▸ hk, hknown'⟩ heq

end TypeHints.Hint
