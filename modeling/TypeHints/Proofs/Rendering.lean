import TypeHints.Hint.Repr
import TypeHints.Proofs.Compounds
import TypeHints.Proofs.Keys

/-!
# Hints that are read back

A hint that is rendered and evaluated again gives a hint with its key, and no forward reference is
made (`evaluate_repr`). This is so for the hints that type expressions can spell
(`Hint.Expressible`):

* what is declared has a name that is read as nothing but a name, and the scope knows it by that
  name;
* a primitive type is one of those that values have, and the scope has its keyword bound to it;
* a literal has a spelling of its own (`Literal.isExpressible`). Numbers that are no safe integers,
  the negative zero and negative big integers have none;
* the members of a union are no unions, since nothing in the text would keep them apart, and there
  are two of them at least;
* something stands between angle brackets.

The hint that comes back is not the same object, and its literals, tuples and unions have new
labels. What is the same is the key, which is all that interning looks at.

`Written` says of a node that it is what the text of a hint is read as, and that it gives a hint
with the key wherever the scope knows the names. There is one lemma for each kind of hint, and
`exists_written` puts them together by induction on how the hint can be spelled. Reading is settled
by the rules for texts (`Item`, `Operand`), conversion by the rules for actions: a run begins in a
state with the given names and references (`Naming.Has`), and each step keeps them.
-/

namespace TypeHints

open Attempt

/-! ### Expressible hints -/

/-- The name that a class, a template or an alias is declared under. -/
def Hint.typeName? : Hint → Option String
  | .ofClass c => some c.name
  | .template t => some t.name
  | .alias a => some a.name
  | _ => none

/-- Whether a type expression spells a value: a text of printable characters, a safe integer other
than the negative zero, a truth value, null, undefined or a big integer that is not negative. -/
def Literal.isExpressible : Literal → Bool
  | .string s => s.toList.all Expression.isPrintable
  | .number x => x.safeInteger?.isSome
  | .bigint i => 0 ≤ i
  | .bool _ | .null | .undefined => true

/-- A type expression spells the hint where the given names are known. -/
inductive Hint.Expressible (names : Dict String Hint) : Hint → Prop where
  | any : Expressible names .any
  | primitive {p q : Primitive} (hp : p.name ∈ Primitive.all.map Primitive.name)
    (hbound : names.get? p.name = some (.primitive q)) (hname : q.name = p.name) :
    Expressible names (.primitive p)
  | declared {h : Hint} {name : String} (hname : h.typeName? = some name)
    (htype : Expression.isTypeName name = true) (hbound : names.get? name = some h) :
    Expressible names h
  | literal {l : Label} {v : Literal} (hv : v.isExpressible = true) :
    Expressible names (.literal l v)
  | union {l : Label} {hs : List Hint} (hlength : 2 ≤ hs.length)
    (hflat : ∀ h ∈ hs, h.isUnion = false) (hhs : ∀ h ∈ hs, Expressible names h) :
    Expressible names (.union l hs)
  | tuple {l : Label} {hs : List Hint} (hhs : ∀ h ∈ hs, Expressible names h) :
    Expressible names (.tuple l hs)
  | subscripted {l : Label} {o : Origin} {hs : List Hint} {name : String}
    (hname : o.toHint.typeName? = some name) (htype : Expression.isTypeName name = true)
    (hbound : names.get? name = some o.toHint) (hne : hs ≠ [])
    (hhs : ∀ h ∈ hs, Expressible names h) : Expressible names (.subscripted l o hs)

/-! ### Actions that find all names -/

/-- The scope knows the given names, and there are the given references. -/
structure Naming.Has (names : Dict String Hint) (refs : Registry) (n : Naming) : Prop where
  entries : n.scope.entries = names
  refs : n.refs = refs

section Actions

variable {names : Dict String Hint} {refs : Registry} {E : Cause → Prop}

/-- To give out a label keeps what the scope knows. -/
theorem Naming.Has.yields_fresh :
    Yields (Naming.Has names refs) (Naming.onStore Store.fresh) (fun _ ↦ True) E :=
  .of_total fun _ hn ↦ ⟨_, _, rfl, trivial, hn.entries, hn.refs⟩

/-- A name that the scope knows is looked up as what it is bound to, and nothing is recorded. -/
theorem Naming.Has.yields_lookup {name : String} {h : Hint} (hbound : names.get? name = some h)
    (trust? : Option Trust) :
    Yields (Naming.Has names refs) (Naming.lookup name trust?) (fun k ↦ k = h) E := by
  refine .of_total fun n hn ↦ ⟨h, { n with scope := n.scope.record name }, ?_, rfl, ?_, hn.refs⟩
  · rw [Naming.lookup, hn.entries, hbound]
  · rw [Scope.entries_record, hn.entries]

end Actions

namespace Expression

open Text

/-! ### Written hints -/

/-- The node is what the text of the hint is read as, and it gives a hint with the same key. -/
structure Written (names : Dict String Hint) (h : Hint) (node : Node) : Prop where
  item : Item h.repr node
  operand : h.isUnion = false → Operand h.repr node
  converts : ∀ w text refs, Yields (Naming.Has names refs) (convert w text node)
    (fun k ↦ k.stableKey = h.stableKey) (fun _ ↦ False)

namespace Written

variable {names : Dict String Hint} {h : Hint} {hs : List Hint} {node : Node} {nodes : List Node}
  {l : Label}

/-- What is written as an operand is written as an item, too. -/
theorem of_operand (hoperand : Operand h.repr node)
    (hconverts : ∀ w text refs, Yields (Naming.Has names refs) (convert w text node)
      (fun k ↦ k.stableKey = h.stableKey) (fun _ ↦ False)) : Written names h node :=
  ⟨hoperand.item, fun _ ↦ hoperand, hconverts⟩

/-! ### Leaves -/

theorem any : Written names .any (.keyword .any) :=
  .of_operand (.keyword (by decide) rfl) fun _ _ _ ↦ .pure rfl

/-- A primitive type is written as the keyword of its name. -/
theorem primitive {p q : Primitive} (hp : p.name ∈ Primitive.all.map Primitive.name)
    (hbound : names.get? p.name = some (.primitive q)) (hname : q.name = p.name) :
    ∃ node, Written names (.primitive p) node := by
  have hall : ∀ w ∈ Primitive.all.map Primitive.name, w ∈ keywordTypes ∧
      ∃ k, Keyword.ofWord? w = some k ∧ k.scopeName? = some w := by decide
  obtain ⟨hkeyword, k, hk, hscope⟩ := hall _ hp
  refine ⟨.keyword k, .of_operand (.keyword hkeyword hk) fun w text refs ↦ ?_⟩
  -- the keyword is looked up by its name, so that a scope could shadow it
  have hlookup : keywordHint k = Naming.lookup p.name (some .evaluator) := by
    cases k <;> simp_all [keywordHint, Keyword.scopeName?]
  rw [convert, hlookup]
  refine (Naming.Has.yields_lookup hbound _).mono ?_
  rintro _ rfl
  exact congrArg ("prim:" ++ ·) hname

/-- What is declared is written as its name. -/
theorem declared {name : String} (hname : h.typeName? = some name) (htype : isTypeName name = true)
    (hbound : names.get? name = some h) : Written names h (.reference name [] none) := by
  obtain rfl : h.repr = name := by
    cases h <;> cases hname <;> rfl
  refine .of_operand (.name htype) fun w text refs ↦ ?_
  rw [convert]
  refine (Naming.Has.yields_lookup hbound _).bind ?_
  rintro _ rfl
  exact .pure rfl

/-- A literal is written as a value with its key. -/
theorem value {v u : Literal} (hv : Operand v.repr (.literal u)) (hkey : u.key = v.key) :
    Written names (.literal l v) (.literal u) := by
  refine .of_operand hv fun w text refs ↦ ?_
  rw [convert]
  exact Naming.Has.yields_fresh.bind fun _ _ ↦ .pure (congrArg ("lit:" ++ ·) hkey)

/-- A number is written with the sign in front of its digits. -/
theorem number {x : Binary64} {i : Int} (hx : x.safeInteger? = some i) :
    ∃ node, Written names (.literal l (.number x)) node := by
  have hbound := Binary64.natAbs_lt_of_safeInteger? hx
  cases i with
  | ofNat n =>
    have hsize : n ≤ 2 ^ 53 := Nat.le_of_lt hbound
    have htext : x.toText = decimal n := Binary64.toText_of_safeInteger? hx
    have hoperand : Operand x.toText _ := htext ▸ Operand.number n
    have hsame : (Binary64.ofDecimal false n 0).toText = x.toText := by
      rw [htext, Binary64.toText_ofDecimal hsize]
    exact ⟨_, value hoperand (congrArg ("number:" ++ ·) hsame)⟩
  | negSucc n =>
    have hsize : n + 1 ≤ 2 ^ 53 := Nat.le_of_lt hbound
    have htext : x.toText = "-" ++ decimal (n + 1) := Binary64.toText_of_safeInteger? hx
    have hoperand : Operand x.toText _ := htext ▸ Operand.negative (n + 1)
    have hsame : (Binary64.ofDecimal false (n + 1) 0).negate.toText = x.toText := by
      rw [htext, Binary64.toText_negate_ofDecimal (Nat.succ_pos n) hsize]
    exact ⟨_, value hoperand (congrArg ("number:" ++ ·) hsame)⟩

/-- A literal that can be spelled is written as a value. -/
theorem literal {v : Literal} (hv : v.isExpressible = true) :
    ∃ node, Written names (.literal l v) node := by
  cases v with
  | string s => exact ⟨_, .value (.string (List.all_eq_true.mp hv)) rfl⟩
  | number x =>
    obtain ⟨i, hi⟩ := Option.isSome_iff_exists.mp hv
    exact number hi
  | bool b => cases b <;> exact ⟨_, .value (.wordValue (by decide)) rfl⟩
  | bigint i =>
    cases i with
    | ofNat n => exact ⟨_, .value (.bigint n) rfl⟩
    | negSucc n => cases hv
  | null => exact ⟨_, .value (.wordValue (by decide)) rfl⟩
  | undefined =>
    -- the one value that is written as a keyword
    have hword : "undefined" ∈ keywordTypes := by decide
    refine ⟨_, .of_operand (.keyword hword rfl) fun w text refs ↦ ?_⟩
    rw [convert]
    exact Naming.Has.yields_fresh.bind fun _ _ ↦ .pure rfl

/-! ### Composite hints -/

/-- Written hints are items between commas. -/
theorem items (hnodes : List.Forall₂ (Written names) hs nodes) :
    List.Forall₂ Item (hs.map Hint.repr) nodes :=
  List.forall₂_map_left_iff.mpr (hnodes.imp fun _ _ h ↦ h.item)

/-- Written hints that are no unions are operands between bars. -/
theorem operands (hnodes : List.Forall₂ (Written names) hs nodes)
    (hflat : ∀ h ∈ hs, h.isUnion = false) : List.Forall₂ Operand (hs.map Hint.repr) nodes := by
  induction hnodes with
  | nil => exact .nil
  | cons h _ ih =>
    obtain ⟨hhead, htail⟩ := List.forall_mem_cons.mp hflat
    exact .cons (h.operand hhead) (ih htail)

/-- The nodes of written hints are converted to hints with their keys, and none of them fails. -/
theorem yields_convertAll (hnodes : List.Forall₂ (Written names) hs nodes) (w : World)
    (text : String) (refs : Registry) :
    Yields (Naming.Has names refs) (convertAll w text nodes)
      (fun rs ↦ ∃ ks : List Hint, rs = ks.map .ok ∧
        Hint.keys Hint.standardNumber ks = Hint.keys Hint.standardNumber hs) (fun _ ↦ False) := by
  induction hnodes with
  | nil => exact .pure ⟨[], rfl, rfl⟩
  | cons h _ ih =>
    -- outcomes are gathered, failures too; every part gives a hint, so that all of them are hints
    refine .of_total fun n hn ↦ ?_
    obtain ⟨k, n₁, hhead, hkey, hn₁⟩ := (h.converts w text refs).exists_of_total hn
    obtain ⟨_, n₂, htail, ⟨ks, rfl, hkeys⟩, hn₂⟩ := ih.exists_of_total hn₁
    refine ⟨.ok k :: ks.map .ok, n₂, ?_, ⟨k :: ks, rfl, ?_⟩, hn₂⟩
    · simp only [convertAll, hhead, htail]
    · rw [Hint.keys, Hint.keys, hkeys]
      exact congrArg (· :: _) hkey

/-- What goes on from parts goes on from hints with the keys of the written ones. -/
theorem yields_parts (hnodes : List.Forall₂ (Written names) hs nodes) {w : World} {text : String}
    {refs : Registry} {V : Hint → Prop} {f : List Hint → Attempt Naming Cause Hint}
    (hf : ∀ ks, Hint.keys Hint.standardNumber ks = Hint.keys Hint.standardNumber hs →
      Yields (Naming.Has names refs) (f ks) V (fun _ ↦ False)) :
    Yields (Naming.Has names refs)
      (convertAll w text nodes >>= fun rs ↦ Attempt.ofExcept (collect rs) >>= f) V
      (fun _ ↦ False) := by
  refine (yields_convertAll hnodes w text refs).bind ?_
  rintro _ ⟨ks, rfl, hkeys⟩
  rw [collect_map_ok]
  exact hf ks hkeys

/-- A tuple is written as its elements in square brackets. -/
theorem tuple (hnodes : List.Forall₂ (Written names) hs nodes) :
    Written names (.tuple l hs) (.tuple nodes) := by
  have hrepr : (Hint.tuple l hs).repr = "[" ++ joinWith ", " (hs.map Hint.repr) ++ "]" := by
    rw [Hint.repr, Hint.reprs_eq_map]
  refine .of_operand (hrepr ▸ .tuple (items hnodes)) fun w text refs ↦ ?_
  rw [convert]
  refine yields_parts hnodes fun ks hkeys ↦ Naming.Has.yields_fresh.bind fun _ _ ↦ .pure ?_
  exact congrArg ("tuple:" ++ joinWith "," ·) hkeys

/-- A union is written as its members with bars between them. -/
theorem union (hlength : 2 ≤ hs.length) (hflat : ∀ h ∈ hs, h.isUnion = false)
    (hnodes : List.Forall₂ (Written names) hs nodes) :
    Written names (.union l hs) (.union nodes) := by
  have hrepr : (Hint.union l hs).repr = joinWith " | " (hs.map Hint.repr) := by
    rw [Hint.repr, Hint.reprs_eq_map]
  refine ⟨hrepr ▸ .union ?_ (operands hnodes hflat), nofun, fun w text refs ↦ ?_⟩
  · rwa [List.length_map]
  · rw [convert]
    refine yields_parts hnodes fun ks hkeys ↦ Naming.Has.yields_fresh.bind fun _ _ ↦ .pure ?_
    exact congrArg (fun ts ↦ "union:" ++ joinWith "|" (sortTexts ts)) hkeys

/-- An application is written as the name of its origin with its arguments in angle brackets. -/
theorem subscripted {o : Origin} {name : String} (hname : o.toHint.typeName? = some name)
    (htype : isTypeName name = true) (hbound : names.get? name = some o.toHint) (hne : hs ≠ [])
    (hnodes : List.Forall₂ (Written names) hs nodes) :
    Written names (.subscripted l o hs) (.reference name [] (some nodes)) := by
  obtain rfl : o.name = name := by
    cases o <;> cases hname <;> rfl
  have hrepr : (Hint.subscripted l o hs).repr =
      o.name ++ "<" ++ joinWith ", " (hs.map Hint.repr) ++ ">" := by
    rw [Hint.repr, Hint.reprs_eq_map]
  refine .of_operand (hrepr ▸ .arguments htype ?_ (items hnodes)) fun w text refs ↦ ?_
  · simpa using hne
  · rw [convert]
    refine (Naming.Has.yields_lookup hbound _).bind ?_
    rintro _ rfl
    refine yields_parts hnodes fun ks hkeys ↦ ?_
    have happly : applyArguments text o.toHint ks =
        (do return .subscripted (← Naming.onStore Store.fresh) o ks) := by
      cases o <;> cases hname <;> rfl
    rw [happly]
    refine Naming.Has.yields_fresh.bind fun _ _ ↦ .pure ?_
    exact congrArg
      ("sub:" ++ Hint.originKey Hint.standardNumber o ++ "<" ++ joinWith "," · ++ ">") hkeys

end Written

/-! ### Evaluating a rendered hint -/

section Evaluation

variable {names : Dict String Hint} {h : Hint} {hs : List Hint}

/-- Every hint that can be spelled is written. -/
theorem exists_written (hh : h.Expressible names) : ∃ node, Written names h node := by
  have hall {hs : List Hint} (hhs : ∀ h ∈ hs, ∃ node, Written names h node) :
      ∃ nodes, List.Forall₂ (Written names) hs nodes := by
    induction hs with
    | nil => exact ⟨[], .nil⟩
    | cons h hs ih =>
      obtain ⟨⟨node, hnode⟩, hhs⟩ := List.forall_mem_cons.mp hhs
      obtain ⟨nodes, hnodes⟩ := ih hhs
      exact ⟨node :: nodes, .cons hnode hnodes⟩
  induction hh with
  | any => exact ⟨_, .any⟩
  | primitive hp hbound hname => exact Written.primitive hp hbound hname
  | declared hname htype hbound => exact ⟨_, .declared hname htype hbound⟩
  | literal hv => exact Written.literal hv
  | union hlength hflat _ ih =>
    obtain ⟨nodes, hnodes⟩ := hall ih
    exact ⟨_, .union hlength hflat hnodes⟩
  | tuple _ ih =>
    obtain ⟨nodes, hnodes⟩ := hall ih
    exact ⟨_, .tuple hnodes⟩
  | subscripted hname htype hbound hne _ ih =>
    obtain ⟨nodes, hnodes⟩ := hall ih
    exact ⟨_, .subscripted hname htype hbound hne hnodes⟩

/-- A hint that type expressions can spell is read back from its text: a hint with the same key is
given, the scope knows the same names, and no forward reference is made. -/
theorem evaluate_repr {w : World} {n : Naming} (hh : h.Expressible n.scope.entries) :
    ∃ k n', evaluate w h.repr n = (.ok k, n') ∧ k.stableKey = h.stableKey ∧
      n'.scope.entries = n.scope.entries ∧ n'.refs = n.refs := by
  obtain ⟨node, hnode⟩ := exists_written hh
  obtain ⟨k, n', hconvert, hkey, hn'⟩ :=
    (hnode.converts w (trim h.repr) n.refs).exists_of_total ⟨rfl, rfl⟩
  refine ⟨k, n', ?_, hkey, hn'.entries, hn'.refs⟩
  unfold evaluate
  rw [hnode.item.parse?]
  exact hconvert

end Evaluation

namespace Roster

/-- A class of users. -/
def user : Hint := .ofClass ⟨50, "User"⟩

/-- A scope of `app` that knows the class. -/
def naming : Naming :=
  ⟨⟨"app", Dict.ofList (Builtin.scope ++ [("User", user)]), [], none⟩, .empty, .initial⟩

/-- Pairs of a user, if there is one, and a number, by text. -/
def hint : Hint :=
  .subscripted 60 (.template Builtin.map) [.primitive .string,
    .tuple 61 [.union 62 [user, .literal 63 .null], .literal 64 (.number (.finite true 15 1))]]

theorem expressible : hint.Expressible naming.scope.entries := by
  have huser : user.Expressible naming.scope.entries := .declared rfl (by decide) rfl
  have hunion : (Hint.union 62 [user, .literal 63 .null]).Expressible naming.scope.entries :=
    .union (by decide) (by decide) (by simpa using ⟨huser, .literal rfl⟩)
  have hstring : (Hint.primitive .string).Expressible naming.scope.entries :=
    .primitive (by decide) rfl rfl
  refine .subscripted rfl (by decide) rfl (by decide) ?_
  simpa using ⟨hstring, .tuple (by simpa using ⟨hunion, .literal rfl⟩)⟩

end Roster

/-- A map of pairs is read back. -/
theorem evaluate_repr_of_map :
    Roster.hint.Expressible Roster.naming.scope.entries ∧
      ∃ k n', evaluate .builtin "Map<string, [User | null, -150]>" Roster.naming = (.ok k, n') ∧
        k.stableKey = Roster.hint.stableKey ∧
        n'.scope.entries = Roster.naming.scope.entries ∧ n'.refs = Roster.naming.refs := by
  have hrepr : Roster.hint.repr = "Map<string, [User | null, -150]>" := by decide +kernel
  exact ⟨Roster.expressible, hrepr ▸ evaluate_repr (w := .builtin) Roster.expressible⟩

end Expression

end TypeHints
