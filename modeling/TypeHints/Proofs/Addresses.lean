import TypeHints.Proofs.Memo
import TypeHints.Proofs.Resolutions

/-!
# One reference for each address

What a reference is made for is its address: a name, the scope that the name was met in, and a kind.
A registry files references under texts that join the three by a separator, and looks before it
checks the names. This is sound for two reasons: only references with valid names are filed, and no
invalid address spells the key of a valid one (`Registry.refKey_inj`). Otherwise a name that holds
the separator could find a reference that was made for another name.

So on every run of requests, the references that were given out and the registry form a memo table
(`Session.Filed`):

* three requests make references (`Request.asked?`): for a name, for a member of a reference, and
  for the sealed twin of a reference. Each of them asks for one address (`Request.maker_cases`), and
  the invariant is kept by a hit, by a miss and by a failure (`Session.Filed.after`);
* requests that make nothing leave the registry as it is (`Session.refs_after`). Clearing it is the
  one exception, and forgets which references there were;
* along a run the invariant is kept by induction on the requests (`Session.Filed.run`).

It follows when making a reference succeeds, that references are told apart by their addresses, how
many there are, and that a request that fails has left no trace (`make_identity`).
-/

namespace TypeHints

open Attempt

/-- What a reference is made for. -/
@[ext]
structure Address where
  scope : String
  name : String
  kind : RefKind
deriving DecidableEq

/-- The key that a reference with an address is filed under. -/
def Address.key (a : Address) : String := Registry.refKey a.kind a.name a.scope

/-- What a reference was made for. -/
def ForwardRef.address (r : ForwardRef) : Address := ⟨r.scope, r.name, r.kind⟩

/-- The address of a valid reference shares its key with no other. -/
theorem ForwardRef.Valid.address_eq {r : ForwardRef} (hr : r.Valid) {d : Address}
    (h : r.address.key = d.key) : r.address = d := by
  obtain ⟨hkind, hname, hscope⟩ := Registry.refKey_inj hr.name hr.scope h
  exact Address.ext hscope hname hkind

/-! ### Requests for references -/

namespace Request

/-- The address that a request asks for, and the owner that a new reference with it gets. A sealed
reference cannot be applied. -/
def asked? : Request → Option (Address × Option Label)
  | .make kind name scope owner? => some (⟨scope, name, kind⟩, owner?)
  | .member r name => some (⟨r.scope, r.name ++ "." ++ name, r.kind⟩, r.owner?)
  | .apply r =>
    match r.kind with
    | .sealed => none
    | .subscriptable => some (⟨r.scope, r.name, .sealed⟩, r.owner?)
  | _ => none

/-- How a request makes a reference, if it is one that does. -/
def maker? : Request → Option (Label → Attempt Registry Cause ForwardRef)
  | .make kind name scope owner? => some fun l ↦ Registry.make l kind name scope owner?
  | .member r name => some fun l ↦ Registry.member l r name
  | .apply r => some fun l ↦ Registry.sealedTwin l r
  | _ => none

/-- A request for a reference makes the one with the address that it asks for. It fails by itself if
it asks for none. -/
theorem maker_cases {q : Request} {a : Label → Attempt Registry Cause ForwardRef}
    (h : q.maker? = some a) :
    (∃ d owner?, q.asked? = some (d, owner?) ∧
      a = fun l ↦ Registry.make l d.kind d.name d.scope owner?) ∨
    q.asked? = none ∧ ∃ c, a = fun _ ↦ .fail c := by
  cases q with
  | make kind name scope owner? => exact .inl ⟨_, _, rfl, (Option.some.inj h).symm⟩
  | member r name => exact .inl ⟨_, _, rfl, (Option.some.inj h).symm⟩
  | apply r =>
    obtain rfl := Option.some.inj h
    cases hkind : r.kind with
    | «sealed» =>
      refine .inr ⟨by simp only [asked?, hkind], .alreadySubscripted r.name, ?_⟩
      simp only [Registry.sealedTwin, hkind]
    | subscriptable =>
      refine .inl ⟨⟨r.scope, r.name, .sealed⟩, r.owner?, by simp only [asked?, hkind], ?_⟩
      simp only [Registry.sealedTwin, hkind]
  | _ => cases h

/-- A request for a reference that fails leaves the registry as it is. -/
theorem refs_eq_of_error {q : Request} {a : Label → Attempt Registry Cause ForwardRef}
    (hmaker : q.maker? = some a) {l : Label} {g g' : Registry} {c : Cause}
    (h : a l g = (.error c, g')) : g' = g := by
  rcases maker_cases hmaker with ⟨d, owner?, -, rfl⟩ | ⟨-, c, rfl⟩
  · rcases Registry.make_cases l d.kind d.name d.scope owner? g with
      ⟨r, -, he⟩ | ⟨-, -, he⟩ | ⟨-, -, c, he, -⟩ <;> cases he.symm.trans h
    rfl
  · cases h
    rfl

end Request

/-! ### Runs of requests -/

namespace Session

/-- The reference that a request is answered with, if it asks for one and does not fail. -/
def answer? (s : Session) (q : Request) : Option ForwardRef :=
  q.maker?.bind fun a ↦ (a s.store.next s.engine.refs).1.toOption

/-- A session after requests, first to last. -/
def run (w : World) (s : Session) (qs : List Request) : Session := qs.foldl (after w) s

/-- The reference that a request is answered with, behind the address that was asked for. -/
def answered (s : Session) (q : Request) : List (Address × ForwardRef) :=
  match q.asked?, s.answer? q with
  | some (d, _), some r => [(d, r)]
  | _, _ => []

/-- The references that requests are answered with, first to last. -/
def answers (w : World) : Session → List Request → List (Address × ForwardRef)
  | _, [] => []
  | s, q :: qs => s.answered q ++ answers w (s.after w q) qs

/-- A reference was made for the address that was asked for, and has valid names. -/
def IsAnswer (d : Address) (r : ForwardRef) : Prop := r.address = d ∧ r.Valid

/-- The references that were given out, and the registry that they are filed in. -/
abbrev Filed (s : Session) (es : List (Address × ForwardRef)) : Prop :=
  Memo Address.key ForwardRef.id IsAnswer s.store.next es s.engine.refs.refs

variable {w : World} {s : Session} {q : Request} {es : List (Address × ForwardRef)}

/-- A request for a reference is carried out by making one. -/
theorem after_of_maker {a : Label → Attempt Registry Cause ForwardRef} (h : q.maker? = some a) :
    s.after w q = s.making a := by
  cases q with
  | make _ _ _ _ | member _ _ | apply _ =>
    obtain rfl := Option.some.inj h
    rfl
  | _ => cases h

/-- Resolving a reference takes no label. -/
theorem next_resolve (r : ForwardRef) :
    (r.resolve w s.engine.modules s.store).2.next = s.store.next := by
  unfold ForwardRef.resolve
  split
  · rfl
  · split <;> rfl

/-- The other requests leave the registry alone, unless they clear it, and use no label. -/
theorem refs_after (h : q.maker? = none) (hclear : q ≠ .clear) :
    (s.after w q).engine.refs = s.engine.refs ∧ (s.after w q).store.next = s.store.next := by
  cases q with
  | make _ _ _ _ | member _ _ | apply _ => cases h
  | clear => exact absurd rfl hclear
  | reload name exports => exact ⟨rfl, rfl⟩
  | invalidate name? => exact ⟨rfl, rfl⟩
  | unload name =>
    show (s.engine.unload name s.store).2.1.refs = _ ∧ (s.engine.unload name s.store).2.2.next = _
    unfold Engine.unload
    split <;> exact ⟨rfl, rfl⟩
  | resolve r => exact ⟨rfl, next_resolve r⟩
  | isSatisfiedBy r v =>
    refine ⟨rfl, ?_⟩
    show (r.isSatisfiedBy w s.engine.modules v s.store).2.next = _
    rw [isSatisfiedBy_store]
    exact next_resolve r

namespace Filed

/-- A registry that is empty goes with no answers. -/
theorem start (h : s.engine.refs = .empty) : s.Filed [] := by
  show Memo _ _ _ _ _ _
  rw [h]
  exact .empty

/-- An address that shares its key with an answered one is that one. -/
theorem address_eq (h : s.Filed es) (d : Address) : ∀ e ∈ es, e.1.key = d.key → e.1 = d := by
  intro e he hkey
  obtain ⟨haddress, hvalid⟩ := h.made e he
  rw [← haddress] at hkey ⊢
  exact hvalid.address_eq hkey

/-- The registry and what was given out go together after each request as before it. -/
theorem after (h : s.Filed es) (hclear : q ≠ .clear) :
    (s.after w q).Filed (es ++ s.answered q) := by
  -- a request that gives nothing out may still have used a label
  have hfail (l : Label) (hl : s.store.next ≤ l) :
      Memo Address.key ForwardRef.id IsAnswer l (es ++ []) s.engine.refs.refs := by
    rw [List.append_nil]
    exact h.mono hl
  cases hmaker : q.maker? with
  | none =>
    obtain ⟨hrefs, hnext⟩ := refs_after (w := w) (s := s) hmaker hclear
    have hnone : s.answered q = [] := by simp [answered, answer?, hmaker]
    rw [Filed, hrefs, hnext, hnone]
    exact hfail _ (Nat.le_refl _)
  | some a =>
    rw [after_of_maker hmaker]
    rcases Request.maker_cases hmaker with ⟨d, owner?, hasked, rfl⟩ | ⟨hasked, c, rfl⟩
    · have hanswer : s.answered q = ((Registry.make s.store.next d.kind d.name d.scope owner?
          s.engine.refs).1.toOption.map fun r ↦ (d, r)).toList := by
        simp only [answered, answer?, hasked, hmaker, Option.bind_some]
        rcases Registry.make s.store.next d.kind d.name d.scope owner? s.engine.refs with
          ⟨c | r, g⟩ <;> rfl
      rw [hanswer, making]
      rcases Registry.make_cases s.store.next d.kind d.name d.scope owner? s.engine.refs with
        ⟨r, hget, he⟩ | ⟨hget, hvalid, he⟩ | ⟨-, -, c, he, -⟩ <;> rw [he]
      · exact (Memo.hit h hget (h.address_eq d)).mono (Nat.le_succ _)
      · exact Memo.miss h hget ⟨rfl, hvalid⟩ rfl
      · exact hfail _ (Nat.le_succ _)
    · have hanswer : s.answered q = [] := by simp [answered, hasked]
      rw [hanswer]
      exact hfail _ (Nat.le_succ _)

/-- The registry and what was given out go together after any requests. -/
theorem run (qs : List Request) : ∀ {s : Session} {es : List (Address × ForwardRef)}, s.Filed es →
    .clear ∉ qs → (s.run w qs).Filed (es ++ s.answers w qs) := by
  induction qs with
  | nil =>
    intro s es h _
    rw [answers, List.append_nil]
    exact h
  | cons q qs ih =>
    intro s es h hclear
    rw [List.mem_cons, not_or] at hclear
    rw [answers, ← List.append_assoc]
    exact ih (h.after (Ne.symm hclear.1)) hclear.2

/-- Making a reference succeeds just if both names are dotted identifiers, since what is found
without a check was checked when it was made. -/
theorem make_isOk_iff (h : s.Filed es) (label : Label) (d : Address) (owner? : Option Label) :
    (∃ r, (Registry.make label d.kind d.name d.scope owner? s.engine.refs).1 = .ok r) ↔
      Text.isDottedIdentifier d.name = true ∧ Text.isDottedIdentifier d.scope = true := by
  rcases Registry.make_cases label d.kind d.name d.scope owner? s.engine.refs with
    ⟨r, hget, he⟩ | ⟨-, hvalid, he⟩ | ⟨-, hnot, c, he, -⟩ <;> rw [he]
  · -- it is not checked here, but is the reference of an earlier request
    have hmem : (d, r) ∈ es := Memo.mem_of_get? h hget (h.address_eq d)
    obtain ⟨haddress, hvalid⟩ := h.made _ hmem
    have haddress : r.address = d := haddress
    rw [← haddress]
    exact ⟨fun _ ↦ ⟨hvalid.name, hvalid.scope⟩, fun _ ↦ ⟨r, rfl⟩⟩
  · exact ⟨fun _ ↦ ⟨hvalid.name, hvalid.scope⟩, fun _ ↦ ⟨_, rfl⟩⟩
  · rw [← Bool.and_eq_true, hnot]
    constructor
    · rintro ⟨r, hr⟩
      cases hr
    · exact nofun

end Filed

end Session

open Session

/-- After any requests to an engine that began without references: making a reference succeeds just
if its name and its scope are dotted identifiers; two references that were given out are one just if
they were asked for by one address; there are as many references as addresses that one was given out
for; and a request for a reference that fails leaves the registry as it is. -/
theorem make_identity {w : World} {start : Session} {requests : List Request}
    (hempty : start.engine.refs = .empty) (hclear : .clear ∉ requests) :
    (∀ label kind name scope owner?,
      (∃ r, (Registry.make label kind name scope owner? (start.run w requests).engine.refs).1 =
          .ok r) ↔
        Text.isDottedIdentifier name = true ∧ Text.isDottedIdentifier scope = true) ∧
      (∀ e ∈ start.answers w requests, e.2.address = e.1 ∧
        ∀ f ∈ start.answers w requests,
          (e.2.id = f.2.id ↔ e.1 = f.1) ∧ (e.1 = f.1 → e.2 = f.2)) ∧
      (start.run w requests).engine.refs.size =
        ((start.answers w requests).map Prod.fst).dedup.length ∧
      ∀ (q : Request) a, q.maker? = some a → ∀ label c refs,
        a label (start.run w requests).engine.refs = (.error c, refs) →
          refs = (start.run w requests).engine.refs := by
  -- everything is read off the memo table that the run has filled
  have hfiled : (start.run w requests).Filed (start.answers w requests) :=
    (Filed.start hempty).run requests hclear
  refine ⟨fun label kind name scope owner? ↦ ?_, fun e he ↦ ⟨(hfiled.made e he).1, fun f hf ↦ ?_⟩,
    hfiled.size_eq, fun q a hmaker label c refs h ↦ Request.refs_eq_of_error hmaker h⟩
  · exact hfiled.make_isOk_iff label ⟨scope, name, kind⟩ owner?
  · exact ⟨hfiled.label_eq_iff he hf, hfiled.value_eq he hf⟩

namespace Accounts

/-- A session in which nothing has been asked for. -/
def start : Session := ⟨.fresh, { Store.initial with next := 50 }, []⟩

/-- The reference to `User` from `app`. -/
def user : ForwardRef := ⟨50, "User", "app", .subscriptable, none⟩

/-- `User` is asked for twice. In between come a member of it, an application of it, and a name that
is not valid: the text before its separator would make a valid one. -/
def requests : List Request :=
  [.make .subscriptable "User" "app" none, .member user "Id", .apply user,
    .make .subscriptable "User\x00subscriptable" "app" none, .resolve user,
    .make .subscriptable "User" "app" (some 7)]

end Accounts

/-- The second request for `User` gets the first reference, and the name that is not valid gets
none. -/
theorem make_identity_of_repeated :
    Accounts.start.engine.refs = .empty ∧ .clear ∉ Accounts.requests ∧
      (Accounts.start.answers .builtin Accounts.requests).map (·.2.id) = [50, 51, 52, 50] ∧
      (Accounts.start.run .builtin Accounts.requests).engine.refs.size =
        ((Accounts.start.answers .builtin Accounts.requests).map Prod.fst).dedup.length := by
  have hclear : .clear ∉ Accounts.requests := by simp [Accounts.requests]
  exact ⟨rfl, hclear, by decide +kernel, (make_identity rfl hclear).2.2.1⟩

end TypeHints
