import TypeHints.Proofs.KeyOrder
import TypeHints.Proofs.Lookups
import TypeHints.Proofs.MemberNames
import TypeHints.Proofs.Reading

/-!
# Names that an expression uses

The names that an expression uses are its heads: the root of each reference and each keyword that a
scope may shadow, from left to right (`Expression.Node.heads`). Evaluating the expression looks them
up in this order, and nothing else: members, literals and applications go to the registry and the
store. So the scope has recorded them afterwards, each where it first came
(`Expression.uses_convert`).

`Naming.Uses names a` says that the action `a`, if it succeeds, has looked up just these names. It
is put together like the action itself:

* a lookup uses its name (`Naming.Uses.lookup`);
* an action that leaves the scope alone uses none (`Naming.Uses.nothing`);
* a sequence uses the names of its parts, one after the other (`Naming.Uses.bind`).

Parts of an expression are all evaluated before the first failure among them counts, so that a
failure may have recorded names, too. That is why only what succeeds is spoken of, and why the parts
have a rule of their own (`Expression.uses_collected`).

A second evaluation meets entries and references only that the first one has left behind. It finds
them all, so that it leaves the scope and the registry alone (`evaluate_names`). This is a second
comparison of readings, `Naming.settled`: on top of agreeing, the later run has not changed the
entries and the references that it started with.
-/

namespace TypeHints

open Attempt

/-! ### Heads -/

namespace Expression

mutual

/-- The names that an expression uses, as they come. -/
def Node.heads : Node → List String
  | .keyword k => k.scopeName?.toList
  | .reference root _ none => [root]
  | .reference root _ (some args) => root :: headsAll args
  | .union nodes => headsAll nodes
  | .array node => node.heads
  | .tuple nodes => headsAll nodes
  | .literal _ => []
  | .group node => node.heads
  | .unsupported _ _ _ => []

/-- The names that expressions use, one expression after the other. -/
def headsAll : List Node → List String
  | [] => []
  | node :: nodes => node.heads ++ headsAll nodes

end

end Expression

/-! ### Recording names -/

/-- A list of names after some more have come: a new one is added last. -/
def noting (known : List String) (names : List String) : List String :=
  names.foldl (fun ks k ↦ if k ∈ ks then ks else ks ++ [k]) known

/-- More names are noted after the first ones. -/
theorem noting_append (known names more : List String) :
    noting known (names ++ more) = noting (noting known names) more :=
  List.foldl_append

/-- Names that are known add nothing. -/
theorem noting_of_subset {known names : List String} (h : names ⊆ known) :
    noting known names = known := by
  induction names with
  | nil => rfl
  | cons name names ih =>
    obtain ⟨hname, hnames⟩ := List.cons_subset.mp h
    show noting (if name ∈ known then known else known ++ [name]) names = known
    rw [if_pos hname]
    exact ih hnames

/-- Names that are noted one by one are the names with repeats dropped. -/
theorem noting_nil (names : List String) : noting [] names = names.eraseDups := by
  induction names using List.reverseRecOn with
  | nil => rfl
  | append_singleton names name ih =>
    rw [noting_append, ih, eraseDups_concat]
    rfl

namespace Naming

/-- Some names were looked up: they are recorded, and have entries. -/
structure Records (names : List String) (n n' : Naming) : Prop where
  grows : n.Grows n'
  recorded : n'.scope.recorded = noting n.scope.recorded names
  entries : ∀ name ∈ names, ∃ h, n'.scope.entries.get? name = some h

variable {names more : List String} {n n' n'' : Naming}

/-- Names are recorded after other names. -/
theorem Records.trans (h : Records names n n') (h' : Records more n' n'') :
    Records (names ++ more) n n'' := by
  refine ⟨trans_of Grows h.grows h'.grows, ?_, fun name hname ↦ ?_⟩
  · rw [h'.recorded, h.recorded, noting_append]
  · rcases List.mem_append.mp hname with hname | hname
    · obtain ⟨k, hk⟩ := h.entries name hname
      exact ⟨k, h'.grows.scope.entries _ _ hk⟩
    · exact h'.entries name hname

/-- What leaves the scope alone records nothing. -/
theorem records_of_scope_eq (hgrows : n.Grows n') (h : n'.scope = n.scope) : Records [] n n' :=
  ⟨hgrows, congrArg Scope.recorded h, fun _ hname ↦ absurd hname List.not_mem_nil⟩

/-- Recording one name notes it. -/
theorem recorded_record (s : Scope) (name : String) :
    (s.record name).recorded = noting s.recorded [name] := by
  rw [Scope.record]
  show _ = if name ∈ s.recorded then s.recorded else s.recorded ++ [name]
  split <;> rfl

/-- A lookup that succeeds records its name. -/
theorem records_lookup {name : String} {trust? : Option Trust} (ht : isTrusted trust? = true)
    {h : Hint} (hlookup : lookup name trust? n = (.ok h, n')) : Records [name] n n' := by
  have hgrows : n.Grows n' := (grows_lookup name ht).of_run hlookup
  rcases lookup_cases name ht n with ⟨k, hk, he⟩ | ⟨-, -, r, g, -, he⟩ | ⟨-, -, c, g, -, he⟩ |
    ⟨-, -, c, -, he⟩ <;> cases he.symm.trans hlookup
  · refine ⟨hgrows, recorded_record _ _, fun name' hname ↦ ⟨h, ?_⟩⟩
    rw [List.mem_singleton.mp hname]
    exact (congrArg (Dict.get? · name) (Scope.entries_record _ _)).trans hk
  · refine ⟨hgrows, recorded_record _ _, fun name' hname ↦ ⟨.forwardRef r, ?_⟩⟩
    rw [List.mem_singleton.mp hname]
    exact (congrArg (Dict.get? · name) (Scope.entries_record _ _)).trans (Dict.get?_insert_self _ _ _)

/-- The scope is the same. -/
def SameScope (n n' : Naming) : Prop := n'.scope = n.scope

instance : IsPreorder Naming SameScope where
  refl _ := rfl
  trans _ _ _ h h' := Eq.trans h' h

/-- An action that succeeds has looked these names up, in this order. -/
def Uses {α : Type} (names : List String) (a : Attempt Naming Cause α) : Prop :=
  ∀ n x n', a n = (.ok x, n') → Records names n n'

namespace Uses

variable {α β : Type} {names more : List String} {a : Attempt Naming Cause α}

/-- An action that leaves the scope alone uses no names. -/
theorem nothing (hg : Follows Grows a) (hs : Follows SameScope a) : Uses [] a :=
  fun _ _ _ h ↦ records_of_scope_eq (hg.of_run h) (hs.of_run h)

protected theorem pure (x : α) : Uses [] (pure x) := nothing (.pure x) (.pure x)

protected theorem fail (c : Cause) : Uses names (.fail c : Attempt Naming Cause α) := nofun

protected theorem bind {f : α → Attempt Naming Cause β} (ha : Uses names a)
    (hf : ∀ x, Uses more (f x)) : Uses (names ++ more) (a >>= f) := by
  intro n y n' h
  obtain ⟨x, n₁, hx, hy⟩ := bind_eq_ok_iff.mp h
  exact (ha n x n₁ hx).trans (hf x n₁ y n' hy)

/-- What comes after a part that uses names may use none. -/
theorem andThen {f : α → Attempt Naming Cause β} (ha : Uses names a) (hf : ∀ x, Uses [] (f x)) :
    Uses names (a >>= f) := by
  have h := ha.bind hf
  rwa [List.append_nil] at h

/-- A lookup uses its name. -/
protected theorem lookup (name : String) {trust? : Option Trust} (ht : isTrusted trust? = true) :
    Uses [name] (Naming.lookup name trust?) :=
  fun _ _ _ ↦ records_lookup ht

/-- A fresh label, and something made of it. -/
theorem fresh (f : Label → β) :
    Uses [] (do return f (← onStore Store.fresh) : Attempt Naming Cause β) :=
  nothing ((grows_onStore Store.grows_fresh).bind fun _ ↦ .pure _)
    (Follows.bind (fun _ ↦ rfl) fun _ ↦ .pure _)

end Uses

end Naming

namespace Expression

open Naming

variable (w : World) (text : String)

/-- A member of a hint is found without the scope. -/
theorem sameScope_memberHint (owner : Hint) (name : String) :
    Follows SameScope (memberHint w text owner name) := by
  cases owner with
  | forwardRef r => exact Follows.bind (fun _ ↦ rfl) fun _ ↦ .pure _
  | ofClass c =>
    simp only [memberHint]
    split
    · exact Follows.bind (fun _ ↦ rfl) fun _ ↦ .pure _
    · exact .fail _
  | _ => exact .fail _

/-- So is a member of a member, and so on. -/
theorem sameScope_memberPath (names : List String) :
    ∀ h, Follows SameScope (memberPath w text h names) := by
  induction names with
  | nil => exact fun h ↦ .pure h
  | cons name rest ih => exact fun h ↦ (sameScope_memberHint w text h name).bind ih

/-- Arguments are applied without the scope. -/
theorem sameScope_applyArguments (origin : Hint) (args : List Hint) :
    Follows SameScope (applyArguments text origin args) := by
  cases origin with
  | template t => exact Follows.bind (fun _ ↦ rfl) fun _ ↦ .pure _
  | «alias» a => exact Follows.bind (fun _ ↦ rfl) fun _ ↦ .pure _
  | forwardRef r => exact Follows.bind (fun _ ↦ rfl) fun _ ↦ Follows.bind (fun _ ↦ rfl) fun _ ↦ .pure _
  | _ => exact .fail _

/-- Members use no names of the scope. -/
theorem uses_memberPath (names : List String) (h : Hint) : Uses [] (memberPath w text h names) :=
  .nothing (grows_memberPath w text names h) (sameScope_memberPath w text names h)

theorem uses_applyArguments (origin : Hint) (args : List Hint) :
    Uses [] (applyArguments text origin args) :=
  .nothing (grows_applyArguments text origin args) (sameScope_applyArguments text origin args)

/-- A keyword uses its name, if a scope may shadow it. -/
theorem uses_keywordHint (k : Keyword) : Uses k.scopeName?.toList (keywordHint k) := by
  cases k with
  | any | unknown => exact .pure _
  | undefined | void => exact .fresh _
  | _ => exact .lookup _ rfl

/-- Arguments and members are all turned into hints before the first failure among them counts; if
there is none, they have used their names. -/
theorem uses_collected {α : Type} {nodes : List Node} {f : List Hint → Attempt Naming Cause α}
    (hall : ∀ n rs n' hs, convertAll w text nodes n = (.ok rs, n') → collect rs = .ok hs →
      Records (headsAll nodes) n n') (hf : ∀ hs, Uses [] (f hs)) :
    Uses (headsAll nodes)
      (do f (← Attempt.ofExcept (collect (← convertAll w text nodes)))) := by
  intro n y n' h
  obtain ⟨rs, n₁, hrs, h⟩ := bind_eq_ok_iff.mp h
  obtain ⟨hs, n₂, hhs, h⟩ := bind_eq_ok_iff.mp h
  obtain ⟨hcollect, rfl⟩ := Prod.mk.inj hhs
  have hrecords := (hall n rs n₁ hs hrs hcollect).trans (hf hs n₁ y n' h)
  rwa [List.append_nil] at hrecords

mutual

/-- Evaluating an expression uses its heads. -/
theorem uses_convert : ∀ node : Node, Uses node.heads (convert w text node)
  | .keyword k => uses_keywordHint k
  | .reference root members none => (Uses.lookup root rfl).andThen (uses_memberPath w text members)
  | .reference root members (some args) =>
    (Uses.lookup root rfl).bind fun h ↦ (uses_memberPath w text members h).bind fun origin ↦
      uses_collected w text (records_convertAll args) (uses_applyArguments text origin)
  | .union nodes =>
    uses_collected w text (records_convertAll nodes) fun hs ↦ .fresh fun l ↦ Hint.union l hs
  | .array node =>
    (uses_convert node).andThen fun h ↦
      .fresh fun l ↦ Hint.subscripted l (.template Builtin.array) [h]
  | .tuple nodes =>
    uses_collected w text (records_convertAll nodes) fun hs ↦ .fresh fun l ↦ Hint.tuple l hs
  | .literal v => .fresh fun l ↦ Hint.literal l v
  | .group node => uses_convert node
  | .unsupported _ _ _ => .fail _

theorem records_convertAll : ∀ (nodes : List Node) (n : Naming) (rs : List (Except Cause Hint))
    (n' : Naming) (hs : List Hint), convertAll w text nodes n = (.ok rs, n') →
      collect rs = .ok hs → Records (headsAll nodes) n n'
  | [], n, rs, n', hs, hrs, _ => Uses.pure [] n rs n' hrs
  | node :: nodes, n, rs, n', hs, hrs, hcollect => by
    rw [convertAll] at hrs
    rcases hhead : convert w text node n with ⟨x, n₁⟩
    rcases htail : convertAll w text nodes n₁ with ⟨c | ys, n₂⟩ <;>
      simp only [hhead, htail] at hrs <;> cases hrs
    -- the outcomes are collected only if all of them are hints
    cases x with
    | error c => cases hcollect
    | ok h =>
      cases hys : collect ys with
      | error c =>
        rw [collect, hys] at hcollect
        cases hcollect
      | ok ks =>
        exact (uses_convert node n h n₁ hhead).trans (records_convertAll nodes n₁ ys n' ks htail hys)

end

end Expression

/-! ### A second evaluation -/

namespace Naming

variable {last m₀ : Naming}

/-- The first run stays below a state. The second one starts above it, and has not changed the
entries and the references that it started with. -/
def settled (last m₀ : Naming) : Comparison Naming where
  rel _ m := last.Grows m ∧ m.refs = m₀.refs ∧ m.scope.entries = m₀.scope.entries
  ok n := n.Grows last

/-- An action that agrees with itself when it comes later is settled then, if it changes neither the
entries nor the references. -/
theorem agree_settled {α β : Type} {E : Cause → Cause → Prop} {V : α → β → Prop}
    {a : Attempt Naming Cause α} {b : Attempt Naming Cause β} (h : Agree (after last) E V a b)
    (hb : ∀ n m, last.Grows m → (a n).2.Grows last →
      (b m).2.refs = m.refs ∧ (b m).2.scope.entries = m.scope.entries) :
    Agree (settled last m₀) E V a b := by
  intro n m ⟨hm, hrefs, hentries⟩ hn
  obtain ⟨hout, hgrows⟩ := h n m hm hn
  obtain ⟨hrefs', hentries'⟩ := hb n m hm hn
  exact ⟨hout, hgrows, hrefs'.trans hrefs, hentries'.trans hentries⟩

/-- Looking a name up again adds no entry and makes no reference. -/
theorem lookup_settled {name : String} {trust? : Option Trust} (ht : isTrusted trust? = true)
    {n m : Naming} (hm : last.Grows m) (hn : (lookup name trust? n).2.Grows last) :
    (lookup name trust? m).2.refs = m.refs ∧
      (lookup name trust? m).2.scope.entries = m.scope.entries := by
  have hout := (lookup_again name ht n m hm hn).1
  rcases lookup_cases name ht m with ⟨h, -, he⟩ | ⟨hnone, -, r, g, -, he⟩ |
    ⟨-, -, c, g, hmake, he⟩ | ⟨-, -, c, -, he⟩ <;> rw [he] at hout ⊢
  · exact ⟨rfl, Scope.entries_record _ _⟩
  · -- the first lookup has succeeded too, and has left an entry
    rcases hfirst : lookup name trust? n with ⟨c | h, n'⟩ <;> rw [hfirst] at hout hn <;> cases hout
    obtain ⟨k, hk⟩ := (records_lookup ht hfirst).entries name (List.mem_singleton_self name)
    have hentry := (trans_of Grows hn hm).scope.entries _ _ hk
    cases hnone.symm.trans hentry
  · rcases Registry.make_cases m.store.next .subscriptable name m.scope.name m.scope.owner? m.refs
      with ⟨r, -, he'⟩ | ⟨-, -, he'⟩ | ⟨-, -, d, he', -⟩ <;> cases he'.symm.trans hmake
    exact ⟨rfl, rfl⟩
  · exact ⟨rfl, rfl⟩

/-- A second reading finds everything, and changes neither the entries nor the references. -/
theorem comparable_settled (w : World) (last m₀ : Naming) :
    Comparable w Eq false (settled last m₀) where
  backward _ _ h h' := trans_of Grows h h'
  fresh := agree_settled (comparable_after w last).fresh fun _ _ _ _ ↦ ⟨rfl, rfl⟩
  classHint id := agree_settled ((comparable_after w last).classHint id) fun _ _ _ _ ↦ ⟨rfl, rfl⟩
  lookup name _ ht := agree_settled (lookup_again name ht) fun _ _ ↦ lookup_settled ht
  member r s name hrs := agree_settled ((comparable_after w last).member r s name hrs) <| by
    rintro n m hm hn
    cases hrs
    exact ⟨congrArg Prod.snd (make_again m.store.next (trans_of Grows hn hm).refs), rfl⟩
  sealedTwin r s hrs := agree_settled ((comparable_after w last).sealedTwin r s hrs) <| by
    rintro n m hm hn
    cases hrs
    exact ⟨congrArg Prod.snd
      (sealedTwin_again n.store.next m.store.next r (trans_of Grows hn hm).refs), rfl⟩

end Naming

/-! ### Names that are recorded -/

namespace Scope

variable {s : Scope}

/-- What a scope lists are entries. -/
theorem get?_of_mem_minify {e : String × Hint} (h : e ∈ s.minify) :
    s.entries.get? e.1 = some e.2 := by
  obtain ⟨name, -, he⟩ := List.mem_filterMap.mp h
  obtain ⟨k, hk, rfl⟩ := Option.map_eq_some_iff.mp he
  exact hk

/-- A scope lists all names that it has recorded, if they have entries. -/
theorem map_fst_minify (h : ∀ name ∈ s.recorded, ∃ k, s.entries.get? name = some k) :
    s.minify.map Prod.fst = s.recorded := by
  rw [minify]
  generalize s.recorded = names at h
  induction names with
  | nil => rfl
  | cons name names ih =>
    obtain ⟨⟨k, hk⟩, hnames⟩ := List.forall_mem_cons.mp h
    rw [List.filterMap_cons, hk, Option.map_some, List.map_cons, ih hnames]

/-- A scope that has grown by its entries at most is the same if these are and the names that it has
recorded. -/
theorem Grows.eq {t : Scope} (h : s.Grows t) (hentries : t.entries = s.entries)
    (hrecorded : t.recorded = s.recorded) : t = s := by
  obtain ⟨name, entries, recorded, owner?⟩ := s
  obtain ⟨name', entries', recorded', owner?'⟩ := t
  obtain ⟨hname, howner, -⟩ := h
  cases hname
  cases howner
  cases hentries
  cases hrecorded
  rfl

end Scope

open Naming Expression

/-- A text that is evaluated is an expression, of which the heads are used. -/
theorem Expression.records_evaluate {w : World} {text : String} {n n' : Naming} {hint : Hint}
    (h : evaluate w text n = (.ok hint, n')) :
    ∃ node, parse? (Text.trimChars text.toList) = some node ∧ Records node.heads n n' := by
  unfold evaluate at h
  cases hparse : parse? (Text.trimChars text.toList) with
  | none =>
    rw [hparse] at h
    cases h
  | some node =>
    rw [hparse] at h
    exact ⟨node, rfl, uses_convert w (Text.trim text) node n hint n' h⟩

/-- A new entry is the subscriptable reference of its name in the scope. -/
theorem Naming.Grows.entry_cases {n n' : Naming} (h : n.Grows n') {name : String} {hint : Hint}
    (hentry : n'.scope.entries.get? name = some hint) :
    n.scope.entries.get? name = some hint ∨
      n.scope.entries.get? name = none ∧ ∃ r, hint = .forwardRef r ∧
        n'.refs.refs.get? (Registry.refKey .subscriptable name n.scope.name) = some r := by
  cases hstart : n.scope.entries.get? name with
  | some k => exact .inl ((h.scope.entries _ _ hstart).symm.trans hentry)
  | none =>
    rcases h.added name hint hentry with hold | ⟨-, hnew⟩
    · cases hstart.symm.trans hold
    · exact .inr ⟨rfl, hnew⟩

/-- **Evaluating records exactly the names used.** From a scope that has recorded none, an expression
that is evaluated leaves a scope that lists the heads of the expression, each where it first came,
with the hint that the scope was created with or else with the subscriptable reference of that name.
Evaluating it again, at once or after anything else that only adds to the scope, gives a hint of the
same key, and neither records a name nor makes an entry or a reference. -/
theorem evaluate_names {w : World} {text : String} {n n' : Naming} {hint : Hint}
    (hrecorded : n.scope.recorded = []) (h : evaluate w text n = (.ok hint, n')) :
    ∃ node, parse? (Text.trimChars text.toList) = some node ∧
      n'.scope.minify.map Prod.fst = node.heads.eraseDups ∧
      (∀ e ∈ n'.scope.minify, n.scope.entries.get? e.1 = some e.2 ∨
        n.scope.entries.get? e.1 = none ∧ ∃ r, e.2 = .forwardRef r ∧
          (∀ label owner?, Registry.make label .subscriptable e.1 n.scope.name owner? n'.refs =
            (.ok r, n'.refs)) ∧
          (n.refs.Sound → r.address = ⟨n.scope.name, e.1, .subscriptable⟩)) ∧
      ∀ m, n'.Grows m → n'.scope.recorded ⊆ m.scope.recorded →
        ∃ k m', evaluate w text m = (.ok k, m') ∧ k.stableKey = hint.stableKey ∧
          m'.scope = m.scope ∧ m'.refs = m.refs := by
  obtain ⟨node, hparse, hrecords⟩ := records_evaluate h
  have hnames : n'.scope.recorded = node.heads.eraseDups := by
    rw [hrecords.recorded, hrecorded, noting_nil]
  refine ⟨node, hparse, ?_, fun e he ↦ ?_, fun m hm hknown ↦ ?_⟩
  · rw [← hnames]
    refine Scope.map_fst_minify fun name hname ↦ hrecords.entries name ?_
    rwa [hnames, List.mem_eraseDups] at hname
  · refine (hrecords.grows.entry_cases (Scope.get?_of_mem_minify he)).imp_right ?_
    rintro ⟨hnone, r, hr, hget⟩
    refine ⟨hnone, r, hr, fun label owner? ↦ Registry.make_eq_of_get? hget, fun hsound ↦ ?_⟩
    obtain ⟨hkey, hvalid⟩ := hrecords.grows.refs.sound hsound _ r hget
    exact hvalid.address_eq (d := ⟨n.scope.name, e.1, .subscriptable⟩) hkey.symm
  · -- the second evaluation starts above the end of the first one
    have hagree := evaluate_agree (comparable_settled w n' m) text n m ⟨hm, rfl, rfl⟩
    rcases hsecond : evaluate w text m with ⟨c | k, m'⟩ <;> rw [h, hsecond] at hagree <;>
      obtain ⟨hout, -, hrefs, hentries⟩ := hagree (refl_of Grows n') <;> cases hout
    rename_i halike
    obtain ⟨node', hparse', hrecords'⟩ := records_evaluate hsecond
    cases hparse.symm.trans hparse'
    have hrecorded' : m'.scope.recorded = m.scope.recorded := by
      rw [hrecords'.recorded]
      refine noting_of_subset fun name hname ↦ hknown ?_
      rw [hnames]
      exact List.mem_eraseDups.mpr hname
    refine ⟨k, m', rfl, ?_, hrecords'.grows.scope.eq hentries hrecorded', hrefs⟩
    exact (Hint.Alike.key_eq Hint.standardNumber (fun r s hrs ↦ congrArg ForwardRef.id hrs) halike).symm

namespace Accounts

/-- An expression with a member, an array type and a name that comes twice. -/
def orders : String := "Map<string, Order.Id>[] | [id: Order, null]"

end Accounts

/-- `Map`, `string` and `Order` are recorded; the member `Id`, the label `id` and the array type are
not. A second evaluation gives a hint of the same key. -/
theorem evaluate_names_of_orders :
    Accounts.naming.scope.recorded = [] ∧
      ∃ hint n', evaluate .builtin Accounts.orders Accounts.naming = (.ok hint, n') ∧
        n'.scope.minify.map Prod.fst = ["Map", "string", "Order"] ∧
        ∃ k m', evaluate .builtin Accounts.orders n' = (.ok k, m') ∧ k.stableKey = hint.stableKey ∧
          m'.scope = n'.scope ∧ m'.refs = n'.refs := by
  have hok := eq_ok_of_isSome (x := evaluate .builtin Accounts.orders Accounts.naming)
    (by decide +kernel) .any
  obtain ⟨node, hparse, hnames, -, hagain⟩ := evaluate_names rfl hok
  have hheads : (parse? (Text.trimChars Accounts.orders.toList)).map (·.heads.eraseDups) =
      some ["Map", "string", "Order"] := by decide +kernel
  rw [hparse, Option.map_some, Option.some.injEq] at hheads
  exact ⟨rfl, _, _, hok, hnames.trans hheads, hagain _ (refl_of Grows _) (List.Subset.refl _)⟩

end TypeHints
