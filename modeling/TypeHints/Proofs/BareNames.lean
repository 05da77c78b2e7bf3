import TypeHints.Proofs.Lookups
import TypeHints.Proofs.Operands
import TypeHints.Site

/-!
# Bare names

A text that is a bare name is looked up and not read as an expression (`Site.readText`). The short
cut gives what reading the text as an expression would have given, with the same state afterwards,
unless the name is one of a few words that begin a type, which `Site.typeWords` does not list
(`bareName_agrees_iff`). There the lookup gives a forward reference, and the expression is refused.

A word that has a meaning of its own as a type falls into one of three classes (`ownWords_cases`):

* `shadowedWords`: the evaluator looks these up by their own names, as the short cut does, so that a
  scope may bind them to something else (`keywordHint_shadowed`);
* `Site.typeWords`: these are no bare names, and the short cut leaves them to the evaluator;
* `overlookedWords`: these are taken for bare names, and each of them on its own is no type, or a
  type of a form that no hint stands for (`parse?_overlooked`).

Any other word is a name for the evaluator too: the parser gives a reference without members and
without arguments (`parse?_word`), and this is looked up under the same name and with the same trust
(`evaluate_bareName`).

Names are words of the grammar of types here (`isWord`). The grammar knows letters up to a version
of Unicode, and an identifier may hold later ones; then the text is no type at all. The name of the
scope has to be dotted identifiers, since otherwise no reference can be made in it and the lookup
fails as the expression does.
-/

namespace TypeHints

open Attempt Expression

namespace Expression

/-! ### One word as a type expression -/

/-- A word on its own is parsed as the operand that it is, unless it is an operator of types, `new` or
`intrinsic`. -/
theorem parse?_word {w : String} {node : Node} (hword : isWord w = true)
    (hopen : ["keyof", "unique", "readonly", "infer", "new"].contains w = false)
    (hintrinsic : w ≠ "intrinsic")
    (h : ∀ size R, Reads size (Reader.wordType R w) node (w.toList ++ [';']) [';']) :
    parse? w.toList = some node := by
  have hheads : Heads (w.toList ++ [';']) (.word w false) [';'] := heads_word hword rfl
  have hopens : Opens (w.toList ++ [';']) (.word w false) [';'] :=
    ⟨hheads, by rw [opensOperand, hopen]; rfl, fun _ _ _ ↦
      ⟨.semicolon, by decide, [], heads_semicolon []⟩⟩
  have hbare (size : Nat) (R : Nested) :
      Reads size (Reader.bareType R) node (w.toList ++ [';']) [';'] := by
    refine .here ?_
    rw [Cursor.on_lexeme hheads]
    exact h size R
  refine parse?_of_union hopens ?_ (.union hopens (hbare _ _) ends_semicolon ?_)
  · rintro e ⟨⟩
    exact hintrinsic rfl
  · rw [Cursor.on_isSign (heads_semicolon [])]
    rfl

/-- The words that begin a type but are not listed among those that no bare name is. -/
def overlookedWords : List String :=
  ["typeof", "new", "import", "keyof", "unique", "readonly", "infer", "intrinsic"]

/-- An overlooked word on its own is no type, or a type that stands for no hint. -/
theorem parse?_overlooked {w : String} (hw : w ∈ overlookedWords) :
    parse? w.toList = none ∨ ∃ form start stop, parse? w.toList = some (.unsupported form start stop) := by
  simp only [overlookedWords, List.mem_cons, List.not_mem_nil, or_false] at hw
  rcases hw with rfl | rfl | rfl | rfl | rfl | rfl | rfl | rfl
  case inr.inr.inr.inr.inr.inr.inr => exact .inr ⟨.other, 0, 9, rfl⟩
  all_goals exact .inl rfl

/-- The words that mean a type but may be bound to something else. -/
def shadowedWords : List String := ["string", "number", "boolean", "bigint", "symbol", "object"]

/-- A keyword that may be shadowed is looked up by its own name. -/
theorem keywordHint_shadowed {w : String} (hw : w ∈ shadowedWords) : ∃ k : Keyword,
    Keyword.ofWord? w = some k ∧ keywordHint k = Naming.lookup w (some .evaluator) := by
  simp only [shadowedWords, List.mem_cons, List.not_mem_nil, or_false] at hw
  rcases hw with rfl | rfl | rfl | rfl | rfl | rfl
  exacts [⟨.string, rfl, rfl⟩, ⟨.number, rfl, rfl⟩, ⟨.boolean, rfl, rfl⟩, ⟨.bigint, rfl, rfl⟩,
    ⟨.symbol, rfl, rfl⟩, ⟨.object, rfl, rfl⟩]

end Expression

/-! ### The short cut -/

section ShortCut

variable {w : World} {text : String}

/-- A word with a meaning of its own may be shadowed, or is no bare name, or is overlooked. -/
theorem ownWords_cases : ∀ v ∈ ownWords,
    v ∈ shadowedWords ∨ v ∈ Site.typeWords ∨ v ∈ overlookedWords := by
  decide

/-- Evaluating a bare name that is not overlooked is looking it up. -/
theorem evaluate_bareName (hplain : Site.isPlainName (Text.trim text) = true)
    (hword : isWord (Text.trim text) = true) (hnot : Text.trim text ∉ overlookedWords) :
    evaluate w text = Naming.lookup (Text.trim text) (some .evaluator) := by
  have hchars : (Text.trim text).toList = Text.trimChars text.toList := String.toList_ofList
  generalize Text.trim text = name at *
  have hheads : Heads (name.toList ++ [';']) (.word name false) [';'] := heads_word hword rfl
  have hopen : ["keyof", "unique", "readonly", "infer", "new"].contains name = false := by
    have hall : ∀ v ∈ ["keyof", "unique", "readonly", "infer", "new"], v ∈ overlookedWords := by
      decide
    rw [List.contains_eq_mem, decide_eq_false_iff_not]
    exact fun h ↦ hnot (hall name h)
  have hintrinsic : name ≠ "intrinsic" := by
    rintro rfl
    exact hnot (by decide)
  unfold evaluate
  rw [← hchars]
  by_cases hown : name ∈ ownWords
  -- a keyword, which is looked up by its own name
  · have hshadowed : name ∈ shadowedWords := by
      have htype : name ∉ Site.typeWords := by
        simpa [Site.isPlainName] using (Bool.and_eq_true_iff.mp hplain).2
      exact (ownWords_cases name hown).resolve_right fun h ↦ h.elim htype hnot
    obtain ⟨k, hk, hlookup⟩ := keywordHint_shadowed hshadowed
    have hkeyword : name ∈ keywordTypes :=
      (by decide : ∀ v ∈ shadowedWords, v ∈ keywordTypes) name hshadowed
    rw [parse?_word hword hopen hintrinsic fun size R ↦
      .wordType_keyword hheads ends_semicolon hkeyword hk]
    exact hlookup
  · rw [parse?_word hword hopen hintrinsic fun size R ↦
      .wordType_name hheads ends_semicolon hown]
    funext n
    show (Naming.lookup name (some .evaluator) >>= fun h ↦ memberPath w _ h []) n = _
    rw [bind_apply]
    rcases Naming.lookup name (some .evaluator) n with ⟨e | h, n'⟩ <;> rfl

/-- Two runs both fail, or end in one hint and in one state: with the same names recorded, the same
references made and the same labels given out. -/
def Naming.SameOutcome : Except Cause Hint × Naming → Except Cause Hint × Naming → Prop
  | (.ok h, n), (.ok k, m) => h = k ∧ n = m
  | (.error _, _), (.error _, _) => True
  | _, _ => False

/-- A run ends as it ends. -/
theorem Naming.sameOutcome_self (x : Except Cause Hint × Naming) : Naming.SameOutcome x x := by
  rcases x with ⟨e | h, n⟩
  · trivial
  · exact ⟨rfl, rfl⟩

/-- Looking a bare name up agrees with evaluating it exactly if it is not overlooked. -/
theorem bareName_agrees_iff (w : World) (text : String) (n : Naming)
    (hplain : Site.isPlainName (Text.trim text) = true) (hword : isWord (Text.trim text) = true)
    (hscope : Text.isDottedIdentifier n.scope.name = true) :
    Naming.SameOutcome (Site.readText w text n) (evaluate w text n) ↔
      Text.trim text ∉ overlookedWords := by
  have hread : Site.readText w text n = Naming.lookup (Text.trim text) (some .evaluator) n := by
    simp only [Site.readText, hplain, if_true, Naming.lookup, isTrusted]
  rw [hread]
  constructor
  · intro hagree hover
    have hchars : (Text.trim text).toList = Text.trimChars text.toList := String.toList_ofList
    have hdotted : Text.isDottedIdentifier (Text.trim text) = true :=
      Text.isDottedIdentifier_of_isIdentifier (Bool.and_eq_true_iff.mp hplain).1
    -- the lookup makes a reference at worst, whereas the expression is refused
    obtain ⟨h, hok⟩ := (Naming.lookup_isOk_iff hscope (Text.trim text) (some .evaluator)).mpr
      (.inr ⟨hdotted, rfl⟩)
    have hfail : ∃ c, (evaluate w text n).1 = .error c := by
      unfold evaluate
      rw [← hchars]
      rcases parse?_overlooked hover with hnone | ⟨form, start, stop, hsome⟩
      · rw [hnone]
        exact ⟨_, rfl⟩
      · rw [hsome]
        exact ⟨_, rfl⟩
    obtain ⟨c, hc⟩ := hfail
    rw [show Naming.lookup (Text.trim text) (some .evaluator) n = (.ok h, _) from Prod.ext hok rfl,
      show evaluate w text n = (.error c, _) from Prod.ext hc rfl] at hagree
    exact hagree
  · intro hnot
    rw [evaluate_bareName hplain hword hnot]
    exact Naming.sameOutcome_self _

namespace Fields

/-- A scope of `app` with no names of its own. -/
def naming : Naming := ⟨⟨"app", Dict.ofList Builtin.scope, [], none⟩, .empty, .initial⟩

end Fields

/-- `User` becomes a reference either way. -/
theorem bareName_agrees_on_user :
    Naming.SameOutcome (Site.readText .builtin " User " Fields.naming)
      (evaluate .builtin " User " Fields.naming) :=
  (bareName_agrees_iff .builtin " User " Fields.naming (by decide) (by decide) (by decide)).mpr
    (by decide)

/-- `keyof` becomes a reference as a bare name, and is no type expression. -/
theorem keyof_disagrees :
    Site.isPlainName (Text.trim "keyof") = true ∧
      (Site.readText .builtin "keyof" Fields.naming).1 =
        .ok (.forwardRef ⟨50, "keyof", "app", .subscriptable, none⟩) ∧
      evaluate .builtin "keyof" Fields.naming =
        (.error (.invalidExpression "keyof"), Fields.naming) := by
  refine ⟨by decide, ?_, rfl⟩
  have hplain : Site.isPlainName (Text.trim "keyof") = true := by decide
  have hread : Site.readText .builtin "keyof" = Naming.lookup "keyof" (some .engine) :=
    if_pos hplain
  rw [hread]
  rfl

end ShortCut

end TypeHints
