import TypeHints.Proofs.Growth
import TypeHints.Proofs.Addresses

/-!
# Members and applications of references

A member of a reference is the reference of the joined name, in the same scope and of the same kind.
So a chain of members (`Registry.memberChain`) ends where the whole name would have been found at
once, whatever was made before and on the way:

* a chain that succeeds ends in a reference that is filed under the joined name
  (`Registry.Sound.of_memberChain`), so that the joined name is found as this reference afterwards
  (`Registry.Sound.make_of_memberChain`);
* if the joined name was made first, the chain ends there (`Registry.Sound.memberChain_of_make`);
* a chain fails just if one of its names is no dotted identifier
  (`Registry.Sound.exists_memberChain_iff`): a joined text is cut into the parts of its halves
  (`Text.segments_append_dot`), and the parts of the left half are identifiers already.

An application of a reference is one of its sealed twin. Since a reference stands under its own key,
what is found as a twin is sealed, and `applyArguments` builds nothing over a subscriptable
reference and nothing over a reference that was applied before (`member_chain_law`).

All this rests on a registry that holds only what was made. It does in every state that requests
lead to, also after it has been cleared (`Session.Reached.vetted`): references that were given out
before are still valid, though they are not filed any more.
-/

namespace TypeHints

open Attempt

/-! ### Joined names -/

namespace Text

/-- Two texts with a dot between them have the parts of both. -/
theorem segments_append_dot (a b : String) :
    segments (a ++ "." ++ b) = segments a ++ segments b :=
  splitAt_append_sep '.' a b

/-- Two texts with a dot between them are a dotted identifier just if both are. -/
theorem isDottedIdentifier_append_dot (a b : String) :
    isDottedIdentifier (a ++ "." ++ b) = (isDottedIdentifier a && isDottedIdentifier b) := by
  rw [isDottedIdentifier, segments_append_dot, List.all_append]
  rfl

/-- So are any texts, if there is one. -/
theorem isDottedIdentifier_dotted_cons (s : String) (ss : List String) :
    isDottedIdentifier (dotted (s :: ss)) = (s :: ss).all isDottedIdentifier := by
  induction ss generalizing s with
  | nil => exact (Bool.and_true _).symm
  | cons t ss ih =>
    rw [dotted, joinWith_cons_cons, isDottedIdentifier_append_dot, List.all_cons]
    exact congrArg (isDottedIdentifier s && ·) (ih t)

end Text

/-! ### Registries that only hold what was made -/

namespace Registry

variable {label : Label} {kind : RefKind} {name scope : String} {owner? : Option Label}
  {g g' : Registry} {r : ForwardRef}

/-- In a sound registry the reference that is found or made is the one that was asked for. -/
theorem Sound.of_make (hs : g.Sound) (h : make label kind name scope owner? g = (.ok r, g')) :
    r.address = ⟨scope, name, kind⟩ ∧ r.Valid ∧ g'.Sound := by
  have hs' : g'.Sound := ((grows_make label kind name scope owner?).of_run h).sound hs
  obtain ⟨hkey, hvalid⟩ := hs' _ r (get?_of_make h)
  exact ⟨hvalid.address_eq (d := ⟨scope, name, kind⟩) hkey.symm, hvalid, hs'⟩

/-- Making a reference in a sound registry succeeds just if both names are dotted identifiers. -/
theorem Sound.exists_make_iff (hs : g.Sound) :
    (∃ r g', make label kind name scope owner? g = (.ok r, g')) ↔
      Text.isDottedIdentifier name = true ∧ Text.isDottedIdentifier scope = true := by
  constructor
  · rintro ⟨r, g', h⟩
    obtain ⟨haddress, hvalid, -⟩ := hs.of_make h
    cases haddress
    exact ⟨hvalid.name, hvalid.scope⟩
  · intro ⟨hname, hscope⟩
    rcases make_cases label kind name scope owner? g with
      ⟨r, -, he⟩ | ⟨-, -, he⟩ | ⟨-, hnot, -⟩
    · exact ⟨r, g, he⟩
    · exact ⟨_, _, he⟩
    · rw [hname, hscope] at hnot
      cases hnot

/-- What has been made is found again, and nothing is made. -/
theorem make_eq_of_get? (h : g.refs.get? (refKey kind name scope) = some r) :
    make label kind name scope owner? g = (.ok r, g) := by
  rw [make, h]

/-! ### Chains of members -/

/-- The member of a member and so on, from left to right. Each step brings the label for a reference
that it may have to make. -/
def memberChain : ForwardRef → List (Label × String) → Attempt Registry Cause ForwardRef
  | r, [] => pure r
  | r, (label, name) :: rest => do memberChain (← member label r name) rest

/-- The names that a chain steps through. -/
abbrev names (steps : List (Label × String)) : List String := steps.map Prod.snd

/-- A chain of members only adds to the registry. -/
theorem grows_memberChain (steps : List (Label × String)) :
    ∀ r, Follows Grows (memberChain r steps) := by
  induction steps with
  | nil => exact fun r ↦ .pure r
  | cons step rest ih => exact fun r ↦ .bind (grows_make _ _ _ _ _) fun p ↦ ih p

/-- A member of a member has the name of the whole path. -/
theorem dotted_member (name m : String) (ms : List String) :
    Text.dotted ((name ++ "." ++ m) :: ms) = Text.dotted (name :: m :: ms) := by
  cases ms with
  | nil => rfl
  | cons m' ms =>
    simp only [Text.dotted, Text.joinWith_cons_cons, String.append_assoc]

/-- A chain ends in a reference that is filed under the joined name. If it has no steps, its start
has to be. -/
theorem Sound.of_memberChain {steps : List (Label × String)} {p : ForwardRef} (hs : g.Sound)
    (hr : r.Valid) (hfiled : steps = [] → g.refs.get? r.address.key = some r)
    (h : memberChain r steps g = (.ok p, g')) :
    p.address = ⟨r.scope, Text.dotted (r.name :: names steps), r.kind⟩ ∧
      g'.refs.get? p.address.key = some p ∧ g'.Sound := by
  induction steps generalizing r g with
  | nil =>
    cases h
    exact ⟨rfl, hfiled rfl, hs⟩
  | cons step rest ih =>
    obtain ⟨q, g₁, hq, hrest⟩ := bind_eq_ok_iff.mp h
    obtain ⟨haddress, hvalid, hs₁⟩ := hs.of_make hq
    have hget : g₁.refs.get? q.address.key = some q := by
      rw [haddress]
      exact get?_of_make hq
    obtain ⟨hp, hend⟩ := ih hs₁ hvalid (fun _ ↦ hget) hrest
    refine ⟨?_, hend⟩
    have hname : q.name = r.name ++ "." ++ step.2 := congrArg Address.name haddress
    have hscope : q.scope = r.scope := congrArg Address.scope haddress
    have hkind : q.kind = r.kind := congrArg Address.kind haddress
    rw [hp, hname, hscope, hkind, dotted_member]
    rfl

/-- A chain from a valid reference succeeds just if all its names are dotted identifiers. -/
theorem Sound.exists_memberChain_iff {steps : List (Label × String)} (hs : g.Sound) (hr : r.Valid) :
    (∃ p g', memberChain r steps g = (.ok p, g')) ↔
      ∀ m ∈ names steps, Text.isDottedIdentifier m = true := by
  induction steps generalizing r g with
  | nil => exact iff_of_true ⟨r, g, rfl⟩ fun _ hm ↦ absurd hm List.not_mem_nil
  | cons step rest ih =>
    -- of the joined name and the scope, only the new part has not been checked before
    have hstep : (∃ q g₁, member step.1 r step.2 g = (.ok q, g₁)) ↔
        Text.isDottedIdentifier step.2 = true := by
      refine hs.exists_make_iff.trans ?_
      rw [Text.isDottedIdentifier_append_dot, hr.name, hr.scope, Bool.true_and]
      exact and_iff_left rfl
    rw [names, List.map_cons, List.forall_mem_cons, ← hstep]
    constructor
    · rintro ⟨p, g', h⟩
      obtain ⟨q, g₁, hq, hrest⟩ := bind_eq_ok_iff.mp h
      obtain ⟨-, hvalid, hs₁⟩ := hs.of_make hq
      exact ⟨⟨q, g₁, hq⟩, (ih hs₁ hvalid).mp ⟨p, g', hrest⟩⟩
    · rintro ⟨⟨q, g₁, hq⟩, hnames⟩
      obtain ⟨-, hvalid, hs₁⟩ := hs.of_make hq
      obtain ⟨p, g', hrest⟩ := (ih hs₁ hvalid).mpr hnames
      exact ⟨p, g', bind_eq_ok_iff.mpr ⟨q, g₁, hq, hrest⟩⟩

/-- The end of a chain is what the whole name is found as afterwards. -/
theorem Sound.make_of_memberChain {steps : List (Label × String)} {p : ForwardRef} (hs : g.Sound)
    (hr : r.Valid) (hne : steps ≠ []) (h : memberChain r steps g = (.ok p, g')) :
    make label r.kind (Text.dotted (r.name :: names steps)) r.scope owner? g' = (.ok p, g') := by
  obtain ⟨haddress, hget, -⟩ := hs.of_memberChain hr (fun hnil ↦ absurd hnil hne) h
  rw [haddress] at hget
  exact make_eq_of_get? hget

/-- What the whole name was made as before is the end of the chain. -/
theorem Sound.memberChain_of_make {steps : List (Label × String)} {q : ForwardRef} (hs : g.Sound)
    (hr : r.Valid) (hne : steps ≠ [])
    (hq : make label r.kind (Text.dotted (r.name :: names steps)) r.scope owner? g = (.ok q, g')) :
    ∃ g'', memberChain r steps g' = (.ok q, g'') := by
  obtain ⟨haddress, hvalid, hs'⟩ := hs.of_make hq
  have hnames : ∀ m ∈ names steps, Text.isDottedIdentifier m = true := by
    have hname : q.name = Text.dotted (r.name :: names steps) := congrArg Address.name haddress
    have hall := hvalid.name
    rw [hname, Text.isDottedIdentifier_dotted_cons, List.all_eq_true] at hall
    exact fun m hm ↦ hall m (List.mem_cons_of_mem _ hm)
  obtain ⟨p, g'', hp⟩ := (hs'.exists_memberChain_iff hr).mpr hnames
  have hend : make label r.kind (Text.dotted (r.name :: names steps)) r.scope owner? g'' =
      (.ok p, g'') := hs'.make_of_memberChain hr hne hp
  have hkept := ((grows_memberChain steps r).of_run hp).refs _ _ (get?_of_make hq)
  rw [make_eq_of_get? hkept] at hend
  cases hend
  exact ⟨g'', hp⟩

/-! ### Sealed twins -/

/-- Only a sealed reference has no twin; a twin is sealed, has the name and the scope of what it is
the twin of, and is filed. -/
theorem Sound.of_sealedTwin {q twin : ForwardRef} (hs : g.Sound)
    (h : sealedTwin label q g = (.ok twin, g')) :
    q.kind = .subscriptable ∧ twin.address = ⟨q.scope, q.name, .sealed⟩ ∧
      g'.refs.get? (refKey .sealed q.name q.scope) = some twin := by
  unfold sealedTwin at h
  cases hkind : q.kind with
  | «sealed» =>
    rw [hkind] at h
    cases h
  | subscriptable =>
    rw [hkind] at h
    exact ⟨rfl, (hs.of_make h).1, get?_of_make h⟩

/-- A reference with valid names has a sealed twin, unless it is sealed itself. -/
theorem Sound.exists_error_sealedTwin_iff (hs : g.Sound) (hr : r.Valid) (label : Label) :
    (∃ c g', sealedTwin label r g = (.error c, g')) ↔ r.kind = .sealed := by
  unfold sealedTwin
  cases r.kind with
  | «sealed» => exact iff_of_true ⟨_, _, rfl⟩ rfl
  | subscriptable =>
    obtain ⟨twin, g', htwin⟩ := hs.exists_make_iff.mpr ⟨hr.name, hr.scope⟩
    refine iff_of_false ?_ nofun
    rintro ⟨c, g'', herror⟩
    cases htwin.symm.trans herror

end Registry

/-! ### Sessions -/

namespace Session

variable {w : World} {s : Session}

/-- A session whose registry is sound and that has given out references with valid names only. -/
structure Vetted (s : Session) : Prop where
  refs : s.engine.refs.Sound
  made : ∀ r ∈ s.made, r.Valid

/-- Making a reference keeps a session vetted, if it keeps the registry sound and only gives valid
names. -/
theorem Vetted.making {a : Label → Attempt Registry Cause ForwardRef} (hs : s.Vetted)
    (ha : ∀ x g, a s.store.next s.engine.refs = (x, g) → g.Sound ∧ ∀ r, x = .ok r → r.Valid) :
    (s.making a).Vetted := by
  unfold Session.making
  rcases hmake : a s.store.next s.engine.refs with ⟨c | r, g⟩
  all_goals
    obtain ⟨hsound, hvalid⟩ := ha _ _ hmake
    refine ⟨hsound, fun q hq ↦ ?_⟩
    rcases List.mem_append.mp hq with hq | hq
    · exact hs.made q hq
  · cases hq
  · exact hvalid q (congrArg _ (List.mem_singleton.mp hq).symm)

/-- Requests that make nothing give nothing out. -/
theorem made_after_of_maker {q : Request} (h : q.maker? = none) : (s.after w q).made = s.made := by
  cases q with
  | make _ _ _ _ | member _ _ | apply _ => cases h
  | _ => rfl

/-- Every request keeps a session vetted: those that make nothing leave the registry alone or clear
it. -/
theorem Vetted.after (hs : s.Vetted) (q : Request) : (s.after w q).Vetted := by
  cases hmaker : q.maker? with
  | some a =>
    rw [after_of_maker hmaker]
    rcases Request.maker_cases hmaker with ⟨d, owner?, -, rfl⟩ | ⟨-, c, rfl⟩
    · refine hs.making fun x g hmake ↦ ⟨((Registry.grows_make _ _ _ _ _).of_run hmake).sound hs.refs, ?_⟩
      rintro r rfl
      exact (hs.refs.of_make hmake).2.1
    · refine hs.making ?_
      rintro x g ⟨⟩
      exact ⟨hs.refs, nofun⟩
  | none =>
    have hmade : ∀ r ∈ (s.after w q).made, r.Valid := by
      rw [made_after_of_maker hmaker]
      exact hs.made
    by_cases hclear : q = .clear
    · subst hclear
      exact ⟨Registry.sound_empty, hmade⟩
    · refine ⟨?_, hmade⟩
      rw [(refs_after hmaker hclear).1]
      exact hs.refs

/-- Requests lead to vetted sessions only, also those that clear the registry. -/
theorem Reached.vetted {requests : List Request} (h : Reached w requests s) : s.Vetted := by
  induction h with
  | start store labelled => exact ⟨Registry.sound_empty, fun _ hr ↦ absurd hr List.not_mem_nil⟩
  | step request _ _ ih => exact ih.after request

end Session

/-! ### Applications -/

namespace Expression

/-- Applying a reference takes its twin, and fails if there is none. -/
theorem applyArguments_forwardRef_cases (text : String) (q : ForwardRef) (args : List Hint)
    (n : Naming) :
    (∃ c n', Registry.sealedTwin n.store.next q n.refs = (.error c, n'.refs) ∧
      applyArguments text (.forwardRef q) args n = (.error c, n')) ∨
    ∃ label twin n', Registry.sealedTwin n.store.next q n.refs = (.ok twin, n'.refs) ∧
      applyArguments text (.forwardRef q) args n =
        (.ok (.subscripted label (.forwardRef twin) args), n') := by
  rw [applyArguments, bind_apply, Naming.onRefs_apply]
  rcases htwin : Registry.sealedTwin n.store.next q n.refs with ⟨c | twin, g⟩
  · exact .inl ⟨c, ⟨n.scope, g, { n.store with next := n.store.next + 1 }⟩, rfl, rfl⟩
  · exact .inr ⟨_, twin, ⟨n.scope, g, { n.store with next := n.store.next + 2 }⟩, rfl, rfl⟩

end Expression

open Expression (applyArguments applyArguments_forwardRef_cases)

/-- **Members and applications respect names.** From a reference that a session has given out, a chain
of members succeeds just if all its names are dotted identifiers. Its end is what the joined name is
found as afterwards, and if the joined name was made first, the chain ends there. An application fails
just if the reference is sealed. Whatever reference is applied, the origin of what is built is sealed:
it is what the name is found as in its scope when it is asked for as a sealed one. -/
theorem member_chain_law {w : World} {requests : List Request} {s : Session}
    (h : Session.Reached w requests s) {r : ForwardRef} (hr : r ∈ s.made) :
    (∀ steps : List (Label × String), steps ≠ [] →
      ((∃ p g, Registry.memberChain r steps s.engine.refs = (.ok p, g)) ↔
        ∀ m ∈ Registry.names steps, Text.isDottedIdentifier m = true) ∧
      ∀ label owner?,
        (∀ p g, Registry.memberChain r steps s.engine.refs = (.ok p, g) →
          Registry.make label r.kind (Text.dotted (r.name :: Registry.names steps)) r.scope owner? g =
            (.ok p, g)) ∧
        ∀ q g, Registry.make label r.kind (Text.dotted (r.name :: Registry.names steps)) r.scope
            owner? s.engine.refs = (.ok q, g) →
          ∃ g', Registry.memberChain r steps g = (.ok q, g')) ∧
    ∀ (n : Naming) (text : String) (args : List Hint), n.refs = s.engine.refs →
      ((∃ c n', applyArguments text (.forwardRef r) args n = (.error c, n')) ↔ r.kind = .sealed) ∧
      ∀ (q : ForwardRef) (hint : Hint) (n' : Naming),
        applyArguments text (.forwardRef q) args n = (.ok hint, n') →
          q.kind = .subscriptable ∧ ∃ l twin, hint = .subscripted l (.forwardRef twin) args ∧
            twin.address = ⟨q.scope, q.name, .sealed⟩ ∧
            ∀ label owner?, Registry.make label .sealed q.name q.scope owner? n'.refs =
              (.ok twin, n'.refs) := by
  have hs : s.engine.refs.Sound := h.vetted.refs
  have hvalid : r.Valid := h.vetted.made r hr
  refine ⟨fun steps hne ↦ ⟨hs.exists_memberChain_iff hvalid, fun label owner? ↦
    ⟨fun p g hp ↦ hs.make_of_memberChain hvalid hne hp, fun q g hq ↦
      hs.memberChain_of_make hvalid hne hq⟩⟩, fun n text args hn ↦ ?_⟩
  rw [← hn] at hs
  constructor
  · rw [← hs.exists_error_sealedTwin_iff hvalid n.store.next]
    rcases applyArguments_forwardRef_cases text r args n with
      ⟨c, n', htwin, he⟩ | ⟨l, twin, n', htwin, he⟩ <;> rw [htwin, he]
    · exact iff_of_true ⟨c, n', rfl⟩ ⟨c, _, rfl⟩
    · exact iff_of_false (by rintro ⟨_, _, ⟨⟩⟩) (by rintro ⟨_, _, ⟨⟩⟩)
  · intro q hint n' happlied
    rcases applyArguments_forwardRef_cases text q args n with
      ⟨c, n₁, htwin, he⟩ | ⟨l, twin, n₁, htwin, he⟩ <;> cases he.symm.trans happlied
    obtain ⟨hkind, haddress, hget⟩ := hs.of_sealedTwin htwin
    exact ⟨hkind, l, twin, rfl, haddress, fun label owner? ↦ Registry.make_eq_of_get? hget⟩

namespace Accounts

/-- The session in which `User` has been asked for. -/
def asked : Session := start.after .builtin (.make .subscriptable "User" "app" none)

/-- The session is reached by its one request. -/
theorem reached_asked :
    Session.Reached .builtin [.make .subscriptable "User" "app" none] asked :=
  (Session.Reached.start { Store.initial with next := 50 } fun _ _ h ↦ by cases h).step
    (.make .subscriptable "User" "app" none) trivial

end Accounts

/-- The member `Id` of the member `Account.Owner` of `User` is there, and `User.Account.Owner.Id` is
the same reference; the member `Id` of the member `Account.` is not. -/
theorem member_chain_law_of_user :
    Session.Reached .builtin [.make .subscriptable "User" "app" none] Accounts.asked ∧
      Accounts.user ∈ Accounts.asked.made ∧
      (∃ p g, Registry.memberChain Accounts.user [(60, "Account.Owner"), (61, "Id")]
          Accounts.asked.engine.refs = (.ok p, g) ∧
        Registry.make 62 .subscriptable "User.Account.Owner.Id" "app" none g = (.ok p, g)) ∧
      ¬∃ p g, Registry.memberChain Accounts.user [(60, "Account."), (61, "Id")]
          Accounts.asked.engine.refs = (.ok p, g) := by
  have hmade : Accounts.user ∈ Accounts.asked.made := by decide +kernel
  have hlaw := (member_chain_law Accounts.reached_asked hmade).1
  obtain ⟨hiff, hsame⟩ := hlaw [(60, "Account.Owner"), (61, "Id")] (List.cons_ne_nil _ _)
  obtain ⟨p, g, hp⟩ := hiff.mpr (by decide)
  refine ⟨Accounts.reached_asked, hmade, ⟨p, g, hp, (hsame 62 none).1 p g hp⟩, ?_⟩
  rw [(hlaw [(60, "Account."), (61, "Id")] (List.cons_ne_nil _ _)).1]
  decide

end TypeHints
